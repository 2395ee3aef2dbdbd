import Msal.Json.Stringify

/-! `NativeAuthStandardController.signIn`: it picks a correlation id, refuses an empty username,
starts the flow, and turns the start result into a next state, a signed-in account, or an error.
The sign-in client is the environment: each of its calls returns a value or throws. `ResultBase` is
not among the sources; a result holds its data, its next state, or its error. -/

namespace Msal.NativeAuth.SignIn
open Msal.Json.Stringify

/-- What `new UnexpectedError(errorData)` is given. -/
inductive ErrorData
  | error (message : String)
  | string (text : String)
  | object (members : List (String × JsValue))
  | other

structure UnexpectedError where
  errorCode : String
  errorDescription : String
  correlationId : Option String
  deriving DecidableEq, Repr

/-- The `UnexpectedError` constructor. -/
def UnexpectedError.new (errorData : ErrorData) (correlationId : Option String) : UnexpectedError :=
  let errorDescription := match errorData with
    | .error message => message
    | .string text => text
    | .object members => stringifyObject members none
    | .other => "An unexpected error occurred."
  ⟨"unexpected_error", errorDescription, correlationId⟩

/-- An error a sign-in result can carry. -/
inductive SignInError
  | invalidArgument (argName : String) (correlationId : String)
  | unexpected (error : UnexpectedError)
  /-- An error thrown by the sign-in client, with the correlation id it carries, if any. -/
  | client (errorCode : String) (correlationId : Option String)
  deriving DecidableEq, Repr

def SignInError.correlationId : SignInError → Option String
  | .invalidArgument _ correlationId => some correlationId
  | .unexpected error => error.correlationId
  | .client _ correlationId => correlationId

structure SignInInputs where
  username : String
  password : Option String
  scopes : Option (List String)
  correlationId : Option String
  deriving DecidableEq, Repr

/-- The configuration `signIn` reads. -/
structure NativeAuthConfig where
  authority : String
  clientId : String
  challengeTypes : Option (List String)
  deriving DecidableEq, Repr

structure SignInStartParams where
  authority : String
  clientId : String
  correlationId : String
  challengeType : List String
  scopes : List String
  username : String
  password : Option String
  deriving DecidableEq, Repr

structure SignInSubmitPasswordParams where
  authority : String
  clientId : String
  correlationId : String
  challengeType : List String
  scopes : List String
  continuationToken : String
  password : String
  deriving DecidableEq, Repr

/-- What `signInClient.start` resolves with: one of the two result classes, or a value of neither. -/
inductive SignInStartResult
  | withContinuationToken (continuationToken : String)
  | codeSendResponse (continuationToken : String)
  | unknown
  deriving DecidableEq, Repr

/-- The sign-in client: each call resolves with a value or throws an error. -/
structure SignInClient (Account : Type) where
  start : SignInStartParams → Except SignInError SignInStartResult
  submitPassword : SignInSubmitPasswordParams → Except SignInError Account

inductive SignInState
  | passwordRequired (correlationId : String) (continuationToken : String) (scopes : Option (List String))
  | codeRequired (correlationId : String) (continuationToken : String) (scopes : Option (List String))
  deriving DecidableEq, Repr

def SignInState.correlationId : SignInState → String
  | .passwordRequired correlationId _ _ | .codeRequired correlationId _ _ => correlationId

def SignInState.continuationToken : SignInState → String
  | .passwordRequired _ continuationToken _ | .codeRequired _ continuationToken _ => continuationToken

structure AccountInfo (Account : Type) where
  account : Account
  correlationId : String
  deriving DecidableEq, Repr

structure SignInResult (Account : Type) where
  data : Option (AccountInfo Account)
  state : Option SignInState
  error : Option SignInError
  deriving DecidableEq, Repr

def SignInResult.createWithError {Account : Type} (error : SignInError) : SignInResult Account :=
  ⟨none, none, some error⟩

/-- `signInOptions.correlationId || createNewGuid()`. -/
def getCorrelationId (inputs : SignInInputs) (newGuid : String) : String :=
  match inputs.correlationId with
  | some correlationId => if correlationId.isEmpty then newGuid else correlationId
  | none => newGuid

variable {Account : Type} (config : NativeAuthConfig) (signInClient : SignInClient Account)

/-- `signIn` with `newGuid` as the GUID `createNewGuid` would return. The `try` block's errors,
thrown by the client or by `signIn` itself, become the result's error. -/
def signIn (inputs : SignInInputs) (newGuid : String) : SignInResult Account :=
  let correlationId := getCorrelationId inputs newGuid
  if inputs.username.isEmpty then .createWithError (.invalidArgument "username" correlationId)
  else
    let startParams : SignInStartParams := ⟨config.authority, config.clientId, correlationId,
      config.challengeTypes.getD [], inputs.scopes.getD [], inputs.username, inputs.password⟩
    match signInClient.start startParams with
    | .error error => .createWithError error
    | .ok (.withContinuationToken continuationToken) =>
      match inputs.password with
      | some password =>
        if password.isEmpty then
          ⟨none, some (.passwordRequired correlationId continuationToken inputs.scopes), none⟩
        else
          match signInClient.submitPassword ⟨config.authority, config.clientId, correlationId,
              config.challengeTypes.getD [], inputs.scopes.getD [], continuationToken, password⟩ with
          | .error error => .createWithError error
          | .ok account => ⟨some ⟨account, correlationId⟩, none, none⟩
      | none => ⟨none, some (.passwordRequired correlationId continuationToken inputs.scopes), none⟩
    | .ok (.codeSendResponse continuationToken) =>
      ⟨none, some (.codeRequired correlationId continuationToken inputs.scopes), none⟩
    | .ok .unknown => .createWithError (.unexpected (.new (.string "Unknow SignInStartResult type") none))

/-- A result carries `correlationId` on whatever it holds. -/
def SignInResult.Carries (result : SignInResult Account) (correlationId : String) : Prop :=
  (∀ error, result.error = some error → error.correlationId = some correlationId) ∧
  (∀ state, result.state = some state → state.correlationId = correlationId) ∧
  (∀ info, result.data = some info → info.correlationId = correlationId)

theorem createWithError_carries (error : SignInError) (correlationId : String)
    (carried : error.correlationId = some correlationId) :
    (SignInResult.createWithError error : SignInResult Account).Carries correlationId :=
  ⟨fun _ held => by cases held; exact carried, nofun, nofun⟩

/-- An empty username is refused with an `InvalidArgumentError` before the client is called. -/
theorem signIn_empty_username (inputs : SignInInputs) (newGuid : String) (empty : inputs.username.isEmpty = true) :
    signIn config signInClient inputs newGuid =
      .createWithError (.invalidArgument "username" (getCorrelationId inputs newGuid)) := by
  simp [signIn, empty]

section Correlated
variable (inputs : SignInInputs) (newGuid : String)
  (startCarries : ∀ params error, signInClient.start params = .error error → error.correlationId = some params.correlationId)
  (submitCarries : ∀ params error, signInClient.submitPassword params = .error error →
    error.correlationId = some params.correlationId)
  (known : ∀ params, signInClient.start params ≠ .ok .unknown)
include startCarries submitCarries known

/-- When the client's errors carry the correlation id they were given and `start` resolves with one of
the two result classes, every result of `signIn` carries its correlation id, and a next state carries
the continuation token `start` resolved with. -/
theorem signIn_carries_correlationId :
    (signIn config signInClient inputs newGuid).Carries (getCorrelationId inputs newGuid) ∧
    ∀ state, (signIn config signInClient inputs newGuid).state = some state →
      ∃ params, params.correlationId = getCorrelationId inputs newGuid ∧
        (signInClient.start params = .ok (.withContinuationToken state.continuationToken) ∨
          signInClient.start params = .ok (.codeSendResponse state.continuationToken)) := by
  by_cases empty : inputs.username.isEmpty
  · rw [signIn_empty_username config signInClient inputs newGuid empty]
    exact ⟨createWithError_carries _ _ rfl, nofun⟩
  simp only [signIn, empty, Bool.false_eq_true, if_false]
  cases started : signInClient.start ⟨config.authority, config.clientId, getCorrelationId inputs newGuid,
      config.challengeTypes.getD [], inputs.scopes.getD [], inputs.username, inputs.password⟩ with
  | error error => exact ⟨createWithError_carries _ _ (startCarries _ _ started), nofun⟩
  | ok result =>
    have asked : ∀ token, (result = .withContinuationToken token ∨ result = .codeSendResponse token) →
        ∃ params : SignInStartParams, params.correlationId = getCorrelationId inputs newGuid ∧
          (signInClient.start params = .ok (.withContinuationToken token) ∨
            signInClient.start params = .ok (.codeSendResponse token)) := by
      rintro token (rfl | rfl)
      · exact ⟨_, rfl, .inl started⟩
      · exact ⟨_, rfl, .inr started⟩
    cases result with
    | withContinuationToken token =>
      have required : (⟨none, some (.passwordRequired (getCorrelationId inputs newGuid) token inputs.scopes), none⟩ :
          SignInResult Account).Carries (getCorrelationId inputs newGuid) :=
        ⟨nofun, fun _ held => by cases held; rfl, nofun⟩
      rcases inputs.password with _ | password
      · exact ⟨required, fun _ held => by cases held; exact asked token (.inl rfl)⟩
      · by_cases blank : password.isEmpty
        · simp only [blank, if_true]
          exact ⟨required, fun _ held => by cases held; exact asked token (.inl rfl)⟩
        · simp only [blank, Bool.false_eq_true, if_false]
          split
          · next error thrown => exact ⟨createWithError_carries _ _ (submitCarries _ _ thrown), nofun⟩
          · exact ⟨⟨nofun, nofun, fun _ held => by cases held; rfl⟩, nofun⟩
    | codeSendResponse token =>
      exact ⟨⟨nofun, fun _ held => by cases held; rfl, nofun⟩,
        fun _ held => by cases held; exact asked token (.inr rfl)⟩
    | unknown => exact absurd started (known _)

end Correlated

def fixedConfig : NativeAuthConfig := ⟨"https://contoso.ciamlogin.com/", "client-id", none⟩

/-- A client whose `start` asks for a code and whose `submitPassword` signs in. -/
def codeClient : SignInClient Unit := ⟨fun _ => .ok (.codeSendResponse "token"), fun _ => .ok ()⟩

theorem signIn_carries_correlationId_for_code :
    (∀ params error, codeClient.start params = .error error → error.correlationId = some params.correlationId) ∧
    (∀ params error, codeClient.submitPassword params = .error error →
      error.correlationId = some params.correlationId) ∧
    (∀ params, codeClient.start params ≠ .ok .unknown) ∧
    (signIn fixedConfig codeClient ⟨"user", none, none, some "cid"⟩ "guid").Carries
        (getCorrelationId ⟨"user", none, none, some "cid"⟩ "guid") ∧
      ∀ state, (signIn fixedConfig codeClient ⟨"user", none, none, some "cid"⟩ "guid").state = some state →
        ∃ params, params.correlationId = getCorrelationId ⟨"user", none, none, some "cid"⟩ "guid" ∧
          (codeClient.start params = .ok (.withContinuationToken state.continuationToken) ∨
            codeClient.start params = .ok (.codeSendResponse state.continuationToken)) :=
  have startCarries : ∀ params error, codeClient.start params = .error error →
      error.correlationId = some params.correlationId := fun _ _ => nofun
  have submitCarries : ∀ params error, codeClient.submitPassword params = .error error →
      error.correlationId = some params.correlationId := fun _ _ => nofun
  have known : ∀ params, codeClient.start params ≠ .ok .unknown := fun _ => by simp [codeClient]
  ⟨startCarries, submitCarries, known,
    signIn_carries_correlationId fixedConfig codeClient _ _ startCarries submitCarries known⟩

/-- A client whose `start` resolves with a value of neither result class. -/
def unknownClient : SignInClient Unit := ⟨fun _ => .ok .unknown, fun _ => .ok ()⟩

theorem signIn_unknown_start_result :
    (signIn fixedConfig unknownClient ⟨"user", none, none, some "cid"⟩ "guid").error =
      some (.unexpected ⟨"unexpected_error", "Unknow SignInStartResult type", none⟩) ∧
    getCorrelationId ⟨"user", none, none, some "cid"⟩ "guid" = "cid" :=
  ⟨rfl, rfl⟩

end Msal.NativeAuth.SignIn
