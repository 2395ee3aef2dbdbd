import Mathlib.Logic.Function.Basic

/-! `BaseClient.sendPostRequest` and the throttling gate around it. The call runs `preProcess` and
starts the network request in one step, then awaits the network; resumed with the network's outcome,
it runs `postProcess` only when the network module returned a response. `ThrottlingUtils` and the
cache manager are not among the sources: their two phases are modelled from the spec. -/

namespace Msal.Throttling.Gate

/-- Modelled from the spec: a throttling entry, `{throttleTime, error?, errorCode?, subError?}`,
with `throttleTime` in epoch seconds. -/
structure ThrottlingEntity where
  throttleTime : Nat
  error : Option String
  errorCode : Option String
  subError : Option String
  deriving DecidableEq, Repr

/-- Modelled from the spec: the throttling entries of the shared cache manager, by key. -/
def ThrottlingCache := String → Option ThrottlingEntity

def ThrottlingCache.empty : ThrottlingCache := fun _ => none

def ThrottlingCache.setItem (cache : ThrottlingCache) (key : String) (entry : ThrottlingEntity) : ThrottlingCache :=
  Function.update cache key (some entry)

def ThrottlingCache.removeItem (cache : ThrottlingCache) (key : String) : ThrottlingCache :=
  Function.update cache key none

@[simp] theorem ThrottlingCache.setItem_apply (cache : ThrottlingCache) (key name : String) (entry : ThrottlingEntity) :
    cache.setItem key entry name = if name = key then some entry else cache name :=
  Function.update_apply cache key (some entry) name

@[simp] theorem ThrottlingCache.removeItem_apply (cache : ThrottlingCache) (key name : String) :
    cache.removeItem key name = if name = key then none else cache name :=
  Function.update_apply cache key none name

/-- The fields of a token endpoint answer that `postProcess` reads. -/
structure ServerAuthorizationTokenResponse where
  error : Option String
  error_codes : Option String
  suberror : Option String
  deriving DecidableEq, Repr

/-- A response the network module returns; its body may be `null`. -/
structure NetworkResponse where
  headers : List (String × String)
  body : Option ServerAuthorizationTokenResponse
  status : Nat
  deriving DecidableEq, Repr

structure AuthError where
  errorCode : String
  errorMessage : String
  deriving DecidableEq, Repr

/-- How `sendPostRequestAsync` settles: a response, or one of the values it can throw. -/
inductive NetworkOutcome
  | response (response : NetworkResponse)
  /-- A `NetworkError`: the wrapped error, and the service's answer when there was one. -/
  | networkError (error : AuthError) (responseHeaders : Option (List (String × String))) (httpStatus : Option Nat)
  | authError (error : AuthError)
  | otherError
  deriving DecidableEq, Repr

/-- What `sendPostRequest` rejects with. -/
inductive SendError
  /-- The throttling error `preProcess` throws, carrying the cached entry's fields. -/
  | throttled (entry : ThrottlingEntity)
  | auth (error : AuthError)
  /-- `createClientAuthError(ClientAuthErrorCodes.networkError)`. -/
  | networkError
  deriving DecidableEq, Repr

/-- Modelled from the spec: the key a thumbprint's throttling entry is stored under, and the
backoff used when the server suggests no delay. -/
structure ThrottlingConfig (RequestThumbprint : Type) where
  throttlingKey : RequestThumbprint → String
  defaultThrottleTime : Nat

/-- Modelled from the spec: the pre-flight check. An entry whose `throttleTime` is still ahead aborts
the call with its fields; an expired one is deleted. -/
def preProcess (cache : ThrottlingCache) (key : String) (now : Nat) : Except ThrottlingEntity ThrottlingCache :=
  match cache key with
  | none => .ok cache
  | some entry => if entry.throttleTime < now then .ok (cache.removeItem key) else .error entry

def retryAfter (response : NetworkResponse) : Option String := response.headers.lookup "Retry-After"

/-- Modelled from the spec: a response with status 429, a status of at least 500, or a `Retry-After`
header asks the client to hold off. -/
def throttlingSignal (response : NetworkResponse) : Bool :=
  response.status == 429 || 500 ≤ response.status || (retryAfter response).isSome

/-- Modelled from the spec: after a response, upsert the entry under the same key when the response
carries a throttling signal; otherwise leave the cache alone. -/
def postProcess (config : ThrottlingConfig RequestThumbprint) (cache : ThrottlingCache) (key : String)
    (response : NetworkResponse) (now : Nat) : ThrottlingCache :=
  if throttlingSignal response then
    cache.setItem key
      ⟨now + (((retryAfter response).bind String.toNat?).getD config.defaultThrottleTime),
        response.body.bind (·.error), response.body.bind (·.error_codes), response.body.bind (·.suberror)⟩
  else cache

/-- The client state `sendPostRequest` reads: the throttling settings and whether a performance client
is configured (`this.performanceClient?.addFields(...)` evaluates its arguments only then). -/
structure BaseClient (RequestThumbprint : Type) where
  throttling : ThrottlingConfig RequestThumbprint
  hasPerformanceClient : Bool

/-- A `sendPostRequest` call at its await, or returned. -/
inductive PostStage
  | awaitingNetwork
  | returned (result : Except SendError NetworkResponse)

variable {RequestThumbprint : Type} (client : BaseClient RequestThumbprint)

/-- `sendPostRequest` up to its await: `preProcess`, then the network request is sent unless it threw,
and the call awaits it. -/
def sendPostRequestStart (cache : ThrottlingCache) (thumbprint : RequestThumbprint) (now : Nat) :
    ThrottlingCache × PostStage :=
  match preProcess cache (client.throttling.throttlingKey thumbprint) now with
  | .error entry => (cache, .returned (.error (.throttled entry)))
  | .ok preProcessed => (preProcessed, .awaitingNetwork)

/-- `sendPostRequest` resumed with the network's outcome. With a performance client, a `null` body throws a
`TypeError` in the `try` block, which the `catch` turns into a client network error; a `NetworkError`
rethrows its wrapped error. Only a response that gets through the `try` block reaches `postProcess`. -/
def sendPostRequestFinish (cache : ThrottlingCache) (thumbprint : RequestThumbprint) (outcome : NetworkOutcome)
    (now : Nat) : ThrottlingCache × Except SendError NetworkResponse :=
  match outcome with
  | .response response =>
    if client.hasPerformanceClient && response.body.isNone then (cache, .error .networkError)
    else (postProcess client.throttling cache (client.throttling.throttlingKey thumbprint) response now, .ok response)
  | .networkError error _ _ => (cache, .error (.auth error))
  | .authError error => (cache, .error (.auth error))
  | .otherError => (cache, .error .networkError)

/-- A whole `sendPostRequest` call on its own: sent at `sentAt`, answered at `answeredAt`. -/
def sendPostRequest (cache : ThrottlingCache) (thumbprint : RequestThumbprint) (sentAt : Nat)
    (outcome : NetworkOutcome) (answeredAt : Nat) : ThrottlingCache × Except SendError NetworkResponse :=
  match sendPostRequestStart client cache thumbprint sentAt with
  | (cache, .returned result) => (cache, result)
  | (cache, .awaitingNetwork) => sendPostRequestFinish client cache thumbprint outcome answeredAt

/-! ### What each phase writes -/

theorem preProcess_ok_frame {cache preProcessed : ThrottlingCache} {key : String} {now : Nat}
    (passed : preProcess cache key now = .ok preProcessed) :
    preProcessed key = none ∧ ∀ other, other ≠ key → preProcessed other = cache other := by
  unfold preProcess at passed
  split at passed
  · next absent => cases passed; exact ⟨absent, fun _ _ => rfl⟩
  · split at passed
    · cases passed; exact ⟨by simp, fun other differ => by simp [differ]⟩
    · cases passed

theorem preProcess_error {cache : ThrottlingCache} {key : String} {now : Nat} {entry : ThrottlingEntity}
    (thrown : preProcess cache key now = .error entry) : cache key = some entry ∧ now ≤ entry.throttleTime := by
  unfold preProcess at thrown
  split at thrown
  · cases thrown
  · next found =>
    split at thrown
    · cases thrown
    · cases thrown; exact ⟨found, by omega⟩

theorem postProcess_frame (config : ThrottlingConfig RequestThumbprint) (cache : ThrottlingCache) (key : String)
    (response : NetworkResponse) (now : Nat) (other : String) (differ : other ≠ key) :
    postProcess config cache key response now other = cache other := by
  unfold postProcess
  split <;> simp [differ]

/-- A throttled `sendPostRequest` leaves the cache as it was. Otherwise only a response that gets
through the `try` block is recorded by `postProcess`; a thrown error leaves the cache `preProcess` left. -/
theorem sendPostRequest_throttling_cache (cache : ThrottlingCache) (thumbprint : RequestThumbprint)
    (sentAt : Nat) (outcome : NetworkOutcome) (answeredAt : Nat) :
    let key := client.throttling.throttlingKey thumbprint
    (∀ entry, preProcess cache key sentAt = .error entry →
      ∀ anyOutcome, sendPostRequest client cache thumbprint sentAt anyOutcome answeredAt =
        (cache, .error (.throttled entry))) ∧
    (∀ preProcessed, preProcess cache key sentAt = .ok preProcessed →
      (∀ response, outcome = .response response →
        (client.hasPerformanceClient = false ∨ response.body.isSome) →
        (sendPostRequest client cache thumbprint sentAt outcome answeredAt).1 =
          postProcess client.throttling preProcessed key response answeredAt) ∧
      (∀ error responseHeaders httpStatus, outcome = .networkError error responseHeaders httpStatus →
        (sendPostRequest client cache thumbprint sentAt outcome answeredAt).1 = preProcessed) ∧
      (∀ error, outcome = .authError error →
        (sendPostRequest client cache thumbprint sentAt outcome answeredAt).1 = preProcessed) ∧
      (outcome = .otherError → (sendPostRequest client cache thumbprint sentAt outcome answeredAt).1 = preProcessed)) := by
  intro key
  refine ⟨fun entry thrown anyOutcome => by simp [sendPostRequest, sendPostRequestStart, key, thrown],
    fun preProcessed passed => ?_⟩
  have started : sendPostRequestStart client cache thumbprint sentAt = (preProcessed, .awaitingNetwork) := by
    simp [sendPostRequestStart, passed]
  simp only [sendPostRequest, started]
  refine ⟨fun response answered readable => ?_, fun _ _ _ answered => ?_, fun _ answered => ?_, fun answered => ?_⟩ <;>
    subst answered
  · cases readable with
    | inl absent => simp [sendPostRequestFinish, absent]
    | inr present =>
      obtain ⟨body, hasBody⟩ := Option.isSome_iff_exists.mp present
      simp [sendPostRequestFinish, hasBody, key]
  all_goals rfl

/-! ### The post to the token endpoint -/

/-- Not among the sources: the server telemetry manager, by what `clearTelemetryCache` does. -/
structure ServerTelemetryManager (Telemetry : Type) where
  clearTelemetryCache : Telemetry → Telemetry

/-- `BaseClient.executePostToTokenEndpoint`: `sendPostRequest`, then the telemetry cache is cleared when
a manager is configured and the response's status is below 500 and not 429. -/
def executePostToTokenEndpoint {Telemetry : Type} (serverTelemetryManager : Option (ServerTelemetryManager Telemetry))
    (cache : ThrottlingCache) (telemetry : Telemetry) (thumbprint : RequestThumbprint) (sentAt : Nat)
    (outcome : NetworkOutcome) (answeredAt : Nat) : ThrottlingCache × Telemetry × Except SendError NetworkResponse :=
  match sendPostRequest client cache thumbprint sentAt outcome answeredAt with
  | (cache, .error error) => (cache, telemetry, .error error)
  | (cache, .ok response) =>
    match serverTelemetryManager with
    | some manager =>
      if response.status < 500 && response.status != 429 then (cache, manager.clearTelemetryCache telemetry, .ok response)
      else (cache, telemetry, .ok response)
    | none => (cache, telemetry, .ok response)

/-- A client with no performance client, whose thumbprints are their own keys, and a 60 second
default backoff. -/
def fixedClient : BaseClient String := ⟨⟨id, 60⟩, false⟩

theorem networkError_throttling_not_recorded :
    (sendPostRequest fixedClient .empty "token-request" 100
        (.networkError ⟨"server_error", "Too Many Requests"⟩ (some []) (some 429)) 100).1 "token-request" = none ∧
    postProcess fixedClient.throttling .empty "token-request" ⟨[], none, 429⟩ 100 "token-request" =
      some ⟨160, none, none, none⟩ :=
  ⟨rfl, rfl⟩

end Msal.Throttling.Gate
