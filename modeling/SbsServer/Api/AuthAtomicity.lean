import SbsServer.Api.AuthManager

/-!
# Failed calls of the authentication manager

Every call that changes the manager writes the new values to memory before it
writes the file, and keeps them when the file cannot be written.  The result
below says exactly when a failed call leaves the memory as it was.
-/

namespace SbsServer
namespace Api

open CLib

/-- A call that changes the manager. -/
inductive AuthCall
  | setup (username password : Option CStr)
  | updateCredentials (username password : Option CStr)
  | createApiKey (name : Option CStr) (apiKeyOut : Bool)
  | deleteApiKey (id : Option CStr)
  | setPasswordless (enabled : Bool)

/-- The result code of a call and the state it leaves. -/
def AuthCall.run
    (checksum : CStr → CStr)
    (draws : Draws)
    (state : AuthState) : AuthCall → SbsResult × AuthState
  | .setup username password =>
      let result := Api.setup checksum draws state username password
      (result.1, result.2.2)
  | .updateCredentials username password =>
      let result := Api.updateCredentials checksum draws state username password
      (result.1, result.2.2)
  | .createApiKey name apiKeyOut =>
      let result := Api.createApiKey checksum draws state name apiKeyOut
      (result.1, result.2.2)
  | .deleteApiKey id => Api.deleteApiKey draws state id
  | .setPasswordless enabled => Api.setPasswordless draws state enabled

/-- A call that returns an error leaves the memory as it was. -/
def FailsAtomically
    (checksum : CStr → CStr)
    (draws : Draws)
    (state : AuthState)
    (call : AuthCall) : Prop :=
  (call.run checksum draws state).1 ≠ .ok →
    (call.run checksum draws state).2.auth = state.auth

/-- The login credentials are already those that a call is about to set. -/
structure HasPassword
    (checksum : CStr → CStr)
    (draws : Draws)
    (auth : AuthManager)
    (username password : CStr) : Prop where
  mode : auth.mode = some ("password" : CStr)
  username : auth.username = some username
  salt : auth.passwordSalt = some draws.passwordSalt
  hash : auth.passwordHash = some (hashSecret checksum draws.passwordSalt password)

/-- The manager already is as passwordless mode leaves it. -/
structure HasNoPassword (auth : AuthManager) : Prop where
  mode : auth.mode = some ("passwordless" : CStr)
  username : auth.username = none
  salt : auth.passwordSalt = none
  hash : auth.passwordHash = none
  sessions : auth.sessions = .empty

/-- A call is refused before it writes, or writes what is already there. -/
def Unharming
    (checksum : CStr → CStr)
    (draws : Draws)
    (state : AuthState) : AuthCall → Prop
  | .setup username password =>
      ∀ name secret, given username = some name → given password = some secret →
        setupRequired state = true →
          HasPassword checksum draws state.auth name secret ∧ state.auth.apiKeys = []
  | .updateCredentials username password =>
      ∀ name secret, given username = some name → given password = some secret →
        HasPassword checksum draws state.auth name secret ∧ state.auth.sessions = .empty
  | .createApiKey _ apiKeyOut => setupRequired state = true ∨ apiKeyOut = false
  | .deleteApiKey id => ∀ key ∈ state.auth.apiKeys, given id ≠ some key.id
  | .setPasswordless true => HasNoPassword state.auth
  | .setPasswordless false =>
      state.auth.username = none ∨ state.auth.passwordHash = none ∨
        state.auth.mode = some ("password" : CStr)

section Failures

variable {checksum : CStr → CStr} {draws : Draws} {state : AuthState} {call : AuthCall}

/-- A call that is refused or succeeds. -/
theorem failsAtomically_of_unchanged
    (unchanged : (call.run checksum draws state).2 = state) :
    FailsAtomically checksum draws state call :=
  fun _ => congrArg AuthState.auth unchanged

variable {written : AuthManager}

/-- A call whose file could not be written. -/
theorem failsAtomically_of_unsaved
    (unsaved : call.run checksum draws state = (.io, { state with auth := written })) :
    FailsAtomically checksum draws state call ↔ written = state.auth := by
  unfold FailsAtomically
  rw [unsaved]
  constructor
  · intro atomic
    exact atomic (fun equal => by cases equal)
  · exact fun same _ => same

/-- A call whose file was written. -/
theorem failsAtomically_of_saved
    {after : AuthState}
    (saved : call.run checksum draws state = (.ok, after)) :
    FailsAtomically checksum draws state call := by
  intro failed
  rw [saved] at failed
  exact absurd rfl failed

/-- A call that tries to save `written` fails atomically exactly when saving
succeeds or nothing was changed. -/
theorem failsAtomically_of_saving
    {after : AuthState}
    (runs : call.run checksum draws state =
      if draws.saves then (.ok, after) else (.io, { state with auth := written })) :
    FailsAtomically checksum draws state call ↔
      draws.saves = true ∨ written = state.auth := by
  cases saves : draws.saves with
  | true =>
      rw [saves, if_pos rfl] at runs
      exact iff_of_true (failsAtomically_of_saved runs) (Or.inl rfl)
  | false =>
      rw [saves] at runs
      rw [failsAtomically_of_unsaved runs]
      simp

/-- The same for a call that ends with `save_config`. -/
theorem failsAtomically_of_saveConfig
    (runs : call.run checksum draws state = saveConfig draws { state with auth := written }) :
    FailsAtomically checksum draws state call ↔
      draws.saves = true ∨ written = state.auth :=
  failsAtomically_of_saving runs

end Failures

section Written

variable {checksum : CStr → CStr} {draws : Draws} {state : AuthState}

theorem setupAuth_eq_iff {name secret : CStr} :
    setupAuth checksum draws state name secret = state.auth ↔
      HasPassword checksum draws state.auth name secret ∧ state.auth.apiKeys = [] := by
  obtain ⟨⟨mode, username, salt, hash, apiKeys, sessions⟩, file⟩ := state
  simp only [setupAuth, withPassword, clearConfig, clearLoginConfig, AuthManager.mk.injEq]
  constructor
  · rintro ⟨rfl, rfl, rfl, rfl, rfl, _⟩
    exact ⟨⟨rfl, rfl, rfl, rfl⟩, rfl⟩
  · rintro ⟨⟨modeSet, nameSet, saltSet, hashSet⟩, noKeys⟩
    exact ⟨modeSet.symm, nameSet.symm, saltSet.symm, hashSet.symm, noKeys.symm, trivial⟩

theorem updatedAuth_eq_iff {name secret : CStr} :
    updatedAuth checksum draws state name secret = state.auth ↔
      HasPassword checksum draws state.auth name secret ∧ state.auth.sessions = .empty := by
  obtain ⟨⟨mode, username, salt, hash, apiKeys, sessions⟩, file⟩ := state
  simp only [updatedAuth, withPassword, clearLoginConfig, AuthManager.mk.injEq]
  constructor
  · rintro ⟨rfl, rfl, rfl, rfl, _, rfl⟩
    exact ⟨⟨rfl, rfl, rfl, rfl⟩, rfl⟩
  · rintro ⟨⟨modeSet, nameSet, saltSet, hashSet⟩, noSessions⟩
    exact ⟨modeSet.symm, nameSet.symm, saltSet.symm, hashSet.symm, trivial, noSessions.symm⟩

theorem passwordlessAuth_eq_iff {auth : AuthManager} :
    { clearLoginConfig auth with
      mode := some "passwordless"
      sessions := .empty } = auth ↔ HasNoPassword auth := by
  obtain ⟨mode, username, salt, hash, apiKeys, sessions⟩ := auth
  simp only [clearLoginConfig, AuthManager.mk.injEq]
  constructor
  · rintro ⟨rfl, rfl, rfl, rfl, _, rfl⟩
    exact ⟨rfl, rfl, rfl, rfl, rfl⟩
  · rintro ⟨modeSet, noName, noSalt, noHash, noSessions⟩
    exact ⟨modeSet.symm, noName.symm, noSalt.symm, noHash.symm, trivial, noSessions.symm⟩

theorem eraseP_ne_self
    {apiKeys : List ApiKeyRecord}
    {matching : ApiKeyRecord → Bool}
    (found : apiKeys.any matching = true) :
    apiKeys.eraseP matching ≠ apiKeys := by
  intro same
  have shorter : (apiKeys.eraseP matching).length =
      if apiKeys.any matching then apiKeys.length - 1 else apiKeys.length :=
    List.length_eraseP
  rw [same, found, if_pos rfl] at shorter
  obtain ⟨key, member, _⟩ := List.any_eq_true.mp found
  have positive := List.length_pos_of_mem member
  omega

end Written

section Calls

variable (checksum : CStr → CStr) (draws : Draws) (state : AuthState)

/-- A refused call harms nothing. -/
theorem failsAtomically_iff_of_refused
    {call : AuthCall}
    (refused : (call.run checksum draws state).2 = state)
    (unharming : Unharming checksum draws state call) :
    FailsAtomically checksum draws state call ↔
      draws.saves = true ∨ Unharming checksum draws state call :=
  iff_of_true (failsAtomically_of_unchanged refused) (Or.inr unharming)

theorem failsAtomically_setup_iff (username password : Option CStr) :
    FailsAtomically checksum draws state (.setup username password) ↔
      draws.saves = true ∨ Unharming checksum draws state (.setup username password) := by
  by_cases accepted : ∃ name secret, given username = some name ∧
      given password = some secret ∧ setupRequired state = true
  · obtain ⟨name, secret, named, hidden, required⟩ := accepted
    have runs := setup_eq checksum draws state named hidden required
    rw [failsAtomically_of_saving (by rw [AuthCall.run, runs]; split <;> rfl),
      setupAuth_eq_iff]
    simp only [Unharming, named, hidden, Option.some.injEq, required]
    constructor
    · rintro (saves | written)
      · exact Or.inl saves
      · right
        rintro _ _ rfl rfl _
        exact written
    · exact Or.imp_right fun unharming => unharming name secret rfl rfl trivial
  · apply failsAtomically_iff_of_refused
    · simp only [AuthCall.run, setup]
      split
      · next name secret named hidden =>
          have ready : setupRequired state = false :=
            Bool.eq_false_iff.mpr fun required =>
              accepted ⟨name, secret, named, hidden, required⟩
          rw [ready]
          rfl
      · rfl
    · intro name secret named hidden required
      exact absurd ⟨name, secret, named, hidden, required⟩ accepted

theorem failsAtomically_updateCredentials_iff (username password : Option CStr) :
    FailsAtomically checksum draws state (.updateCredentials username password) ↔
      draws.saves = true ∨
        Unharming checksum draws state (.updateCredentials username password) := by
  by_cases accepted : ∃ name secret, given username = some name ∧
      given password = some secret
  · obtain ⟨name, secret, named, hidden⟩ := accepted
    have runs := updateCredentials_eq checksum draws state named hidden
    rw [failsAtomically_of_saving (by rw [AuthCall.run, runs]; split <;> rfl),
      updatedAuth_eq_iff]
    simp only [Unharming, named, hidden, Option.some.injEq]
    constructor
    · rintro (saves | written)
      · exact Or.inl saves
      · right
        rintro _ _ rfl rfl
        exact written
    · exact Or.imp_right fun unharming => unharming name secret rfl rfl
  · apply failsAtomically_iff_of_refused
    · simp only [AuthCall.run, updateCredentials]
      split
      · next name secret named hidden =>
          exact absurd ⟨name, secret, named, hidden⟩ accepted
      · rfl
    · intro name secret named hidden
      exact absurd ⟨name, secret, named, hidden⟩ accepted

theorem failsAtomically_createApiKey_iff (name : Option CStr) (apiKeyOut : Bool) :
    FailsAtomically checksum draws state (.createApiKey name apiKeyOut) ↔
      draws.saves = true ∨
        Unharming checksum draws state (.createApiKey name apiKeyOut) := by
  by_cases refused : setupRequired state = true ∨ apiKeyOut = false
  · apply failsAtomically_iff_of_refused
    · have guarded : (setupRequired state || !apiKeyOut) = true := by simpa using refused
      simp only [AuthCall.run, createApiKey, guarded, if_true]
    · exact refused
  · have accepted : (setupRequired state || !apiKeyOut) = false := by simpa using refused
    have runs : (AuthCall.createApiKey name apiKeyOut).run checksum draws state =
        saveConfig draws { state with auth := { state.auth with
          apiKeys := state.auth.apiKeys ++ [newApiKey checksum draws name] } } := by
      simp only [AuthCall.run, createApiKey, accepted, saveConfig]
      cases draws.saves <;> rfl
    rw [failsAtomically_of_saveConfig runs]
    refine or_congr_right (iff_of_false (fun same => ?_) refused)
    have keys := congrArg AuthManager.apiKeys same
    simp at keys

theorem failsAtomically_deleteApiKey_iff (id : Option CStr) :
    FailsAtomically checksum draws state (.deleteApiKey id) ↔
      draws.saves = true ∨ Unharming checksum draws state (.deleteApiKey id) := by
  by_cases refused : Unharming checksum draws state (.deleteApiKey id)
  · refine failsAtomically_iff_of_refused _ _ _ ?_ refused
    simp only [AuthCall.run, deleteApiKey]
    split
    · next value supplied =>
        have missing : state.auth.apiKeys.any (fun key => key.id = value) = false := by
          rw [List.any_eq_false]
          intro key member matching
          have named := of_decide_eq_true matching
          exact refused key member (named ▸ supplied)
        rw [missing]
        rfl
    · rfl
  · simp only [Unharming, not_forall, not_not] at refused
    obtain ⟨key, member, supplied⟩ := refused
    have found : state.auth.apiKeys.any (fun other => other.id = key.id) = true :=
      List.any_eq_true.mpr ⟨key, member, decide_eq_true rfl⟩
    have runs : (AuthCall.deleteApiKey id).run checksum draws state =
        saveConfig draws { state with auth := { state.auth with
          apiKeys := state.auth.apiKeys.eraseP fun other => other.id = key.id } } := by
      simp only [AuthCall.run, deleteApiKey, supplied, found, if_true]
    rw [failsAtomically_of_saveConfig runs]
    refine or_congr_right (iff_of_false (fun same => ?_) fun unharming => ?_)
    · exact eraseP_ne_self found (congrArg AuthManager.apiKeys same)
    · exact unharming key member supplied

theorem failsAtomically_setPasswordless_iff (enabled : Bool) :
    FailsAtomically checksum draws state (.setPasswordless enabled) ↔
      draws.saves = true ∨ Unharming checksum draws state (.setPasswordless enabled) := by
  cases enabled with
  | true => rw [failsAtomically_of_saveConfig rfl, passwordlessAuth_eq_iff, Unharming]
  | false =>
      by_cases missing : state.auth.username = none ∨ state.auth.passwordHash = none
      · apply failsAtomically_iff_of_refused
        · have guarded : (state.auth.username.isNone || state.auth.passwordHash.isNone) =
              true := by simpa using missing
          simp [AuthCall.run, setPasswordless, guarded]
        · rcases missing with noName | noHash
          · exact Or.inl noName
          · exact Or.inr (Or.inl noHash)
      · have present : (state.auth.username.isNone || state.auth.passwordHash.isNone) =
            false := by
          rw [← Bool.not_eq_true, Bool.or_eq_true, Option.isNone_iff_eq_none,
            Option.isNone_iff_eq_none]
          exact missing
        have runs : (AuthCall.setPasswordless false).run checksum draws state =
            saveConfig draws { state with auth := { state.auth with
              mode := some "password" } } := by
          simp [AuthCall.run, setPasswordless, present]
        have written : { state.auth with mode := some "password" } = state.auth ↔
            state.auth.mode = some ("password" : CStr) := by
          constructor
          · intro same
            exact (congrArg AuthManager.mode same).symm
          · intro mode
            rw [← mode]
        have unharming : Unharming checksum draws state (.setPasswordless false) ↔
            state.auth.mode = some ("password" : CStr) := by
          rw [Unharming, ← or_assoc, or_iff_right missing]
        rw [failsAtomically_of_saveConfig runs, written, unharming]

end Calls

/-- For every manager, file, call and outcome of saving, failing leaves the
memory alone exactly when saving succeeds or the call is refused or writes what
is already there. -/
theorem authCall_failsAtomically_iff
    (checksum : CStr → CStr)
    (draws : Draws)
    (state : AuthState)
    (call : AuthCall) :
    FailsAtomically checksum draws state call ↔
      draws.saves = true ∨ Unharming checksum draws state call := by
  cases call with
  | setup username password =>
      exact failsAtomically_setup_iff checksum draws state username password
  | updateCredentials username password =>
      exact failsAtomically_updateCredentials_iff checksum draws state username password
  | createApiKey name apiKeyOut =>
      exact failsAtomically_createApiKey_iff checksum draws state name apiKeyOut
  | deleteApiKey id => exact failsAtomically_deleteApiKey_iff checksum draws state id
  | setPasswordless enabled =>
      exact failsAtomically_setPasswordless_iff checksum draws state enabled

/-- A server with a password and no API keys. -/
def passwordState : AuthState where
  auth := {
    mode := some "password"
    username := some "admin"
    passwordSalt := some "salt"
    passwordHash := some "hash"
    apiKeys := []
    sessions := .empty }
  file := none

/-- Draws of a call whose file cannot be written. -/
def failingDraws : Draws where
  passwordSalt := "salt-drawn"
  sessionToken := "token-drawn"
  keySecret := "secret-drawn"
  keyId := "id-drawn"
  keySalt := "key-salt-drawn"
  now := "2026-01-01T00:00:00Z"
  saves := false

/-- The switch to passwordless mode fails and opens the server. -/
theorem setPasswordless_fails_after_writing :
    ¬FailsAtomically id failingDraws passwordState (.setPasswordless true) := by
  intro atomic
  have kept := atomic (by decide +kernel)
  have mode := congrArg AuthManager.mode kept
  revert mode
  decide +kernel

end Api
end SbsServer
