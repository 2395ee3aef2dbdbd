import Msal.KeyStore.Operations

/-! Calls made one after another: each is started on the store the last one left and resumed with
its own answers, which may reject at any await. The abstract model is the list of what each call did
to the signing keys, latest first; a key is registered when a call generated it after the last clear
and the last completed removal of it. -/

namespace Msal.KeyStore.Sequential
open Msal.Json.Stringify Msal.KeyStore.Operations

variable {Key : Type} (ops : CryptoOps Key)

/-- Resume a call with each answer in turn, no other call running. -/
def resumeAll (cache : CryptoKeyStore Key) (call : Call Key) : List (Answer Key) → CryptoKeyStore Key × Call Key
  | [] => (cache, call)
  | answer :: answers => resumeAll (call.resume ops cache answer).1 (call.resume ops cache answer).2.1 answers

def perform (cache : CryptoKeyStore Key) (operation : Operation) (answers : List (Answer Key)) :
    CryptoKeyStore Key × Call Key :=
  resumeAll ops cache operation.start answers

/-- What a call did to the signing keys, as its caller counts it. -/
inductive Effect
  | generated (kid : String)
  | removed (kid : String)
  | cleared
  | unchanged
  deriving DecidableEq, Repr

/-- Whether a call's first await, its storage call for `removeTokenBindingKey`, went through. -/
def firstResolves : List (Answer Key) → Bool
  | answer :: _ => answer.rejects.isNone
  | [] => false

def effect (answers : List (Answer Key)) : Call Key → Effect
  | .getPublicKeyThumbprint _ _ (.returned (.ok kid)) => .generated kid
  | .removeTokenBindingKey kid _ => if firstResolves answers then .removed kid else .unchanged
  | .clearKeystore (.returned (.ok true)) => .cleared
  | _ => .unchanged

/-- Whether `kid` is registered after the effects, latest first: a call generated it after the last
clear and after the last completed removal of it. -/
def registered (kid : String) : List Effect → Bool
  | [] => false
  | .generated key :: older => key == kid || registered kid older
  | .removed key :: older => key != kid && registered kid older
  | .cleared :: _ => false
  | .unchanged :: older => registered kid older

/-- Whether `kid` is registered after one more effect, from whether it was before. -/
def Effect.live (kid : String) (before : Bool) : Effect → Bool
  | .generated key => key == kid || before
  | .removed key => key != kid && before
  | .cleared => false
  | .unchanged => before

theorem registered_cons (kid : String) (effect : Effect) (older : List Effect) :
    registered kid (effect :: older) = effect.live kid (registered kid older) := by
  cases effect <;> rfl

/-- The store and the effects, latest first, after calls made one after another from the empty store. -/
def runSequential (history : List (Operation × List (Answer Key))) : CryptoKeyStore Key × List Effect :=
  history.foldl (fun state call =>
    let done := perform ops state.1 call.1 call.2
    (done.1, effect call.2 done.2 :: state.2)) (.empty, [])

/-! ### Calls past their last write -/

/-- A call that will not write to the store again. -/
def Settled : Call Key → Prop
  | .getPublicKeyThumbprint _ _ (.returned _) => True
  | .removeTokenBindingKey _ .containsKey | .removeTokenBindingKey _ (.returned _) => True
  | .clearKeystore (.returned _) => True
  | .signJwt .. | .getAsymmetricPublicKey .. => True
  | _ => False

theorem resume_settled (cache : CryptoKeyStore Key) (answer : Answer Key) (call : Call Key)
    (settled : Settled call) :
    (call.resume ops cache answer).1 = cache ∧ Settled (call.resume ops cache answer).2.1 := by
  obtain ⟨_ | _, keyPair, deleted⟩ := answer <;>
    rcases call with ⟨_, _, _ | _ | _ | _ | _ | _ | _⟩ | ⟨_, _ | _ | _⟩ | ⟨_ | _⟩ | ⟨_, _, stage⟩ | ⟨_, stage⟩ <;>
    simp_all [Settled, Call.resume, ThumbprintStage.resume, RemoveStage.resume, ClearStage.resume, resolving]

theorem resumeAll_settled (cache : CryptoKeyStore Key) (call : Call Key) (answers : List (Answer Key))
    (settled : Settled call) : (resumeAll ops cache call answers).1 = cache := by
  induction answers generalizing cache call with
  | nil => rfl
  | cons answer answers ih =>
    obtain ⟨kept, stillSettled⟩ := resume_settled ops cache answer call settled
    simpa only [resumeAll, kept] using ih _ _ stillSettled

/-- A call that has returned. -/
def Done : Call Key → Prop
  | .getPublicKeyThumbprint _ _ (.returned _) | .removeTokenBindingKey _ (.returned _)
  | .clearKeystore (.returned _) | .signJwt _ _ (.returned _) | .getAsymmetricPublicKey _ (.returned _) => True
  | _ => False

/-- A call's result does not change once it has returned. -/
theorem resumeAll_done (cache : CryptoKeyStore Key) (call : Call Key) (answers : List (Answer Key))
    (done : Done call) : resumeAll ops cache call answers = (cache, call) := by
  induction answers with
  | nil => rfl
  | cons answer answers ih =>
    rcases call with ⟨_, _, _ | _ | _ | _ | _ | _ | _⟩ | ⟨_, _ | _ | _⟩ | ⟨_ | _⟩ | ⟨_, _, _ | _ | _ | _⟩ |
      ⟨_, _ | _ | _⟩ <;>
      first
        | exact absurd done id
        | exact ih

/-! ### One call on its own -/

/-- Where a `getPublicKeyThumbprint` call leaves the store: unchanged until it returns a thumbprint,
which it has then stored. -/
def ThumbprintSolo (before cache : CryptoKeyStore Key) : ThumbprintStage Key → Prop
  | .returned (.ok kid) =>
    ∃ entry, cache = { before with asymmetricKeys := before.asymmetricKeys.setItem kid entry }
  | _ => cache = before

theorem thumbprintSolo_resume {before cache : CryptoKeyStore Key} (request : SignedHttpRequestParameters)
    (keyType : Option CryptoKeyTypes) (answer : Answer Key) (stage : ThumbprintStage Key)
    (solo : ThumbprintSolo before cache stage) :
    ThumbprintSolo before (stage.resume ops request keyType cache answer).1
      (stage.resume ops request keyType cache answer).2.1 := by
  obtain ⟨_ | _, _ | ⟨_ | _, _ | _⟩, deleted⟩ := answer <;>
    cases stage <;> first
      | exact solo
      | simp_all [ThumbprintSolo, ThumbprintStage.resume, resolving]

theorem resumeAll_thumbprint {before : CryptoKeyStore Key} (cache : CryptoKeyStore Key)
    (request : SignedHttpRequestParameters) (keyType : Option CryptoKeyTypes) (stage : ThumbprintStage Key)
    (answers : List (Answer Key)) (solo : ThumbprintSolo before cache stage) :
    ∃ last, (resumeAll ops cache (.getPublicKeyThumbprint request keyType stage) answers).2 =
        .getPublicKeyThumbprint request keyType last ∧
      ThumbprintSolo before (resumeAll ops cache (.getPublicKeyThumbprint request keyType stage) answers).1 last := by
  induction answers generalizing cache stage with
  | nil => exact ⟨stage, rfl, solo⟩
  | cons answer answers ih =>
    exact ih _ _ (thumbprintSolo_resume ops request keyType answer stage solo)

/-- After its `removeItem`, a `removeTokenBindingKey` call returns whether `kid` is absent. -/
def RemoveAnswered (cache : CryptoKeyStore Key) (kid : String) : RemoveStage → Prop
  | .removeItem => False
  | .containsKey | .returned (.error _) => True
  | .returned (.ok removed) => removed = !(cache.asymmetricKeys kid).isSome

theorem resumeAll_remove (cache : CryptoKeyStore Key) (kid : String) (stage : RemoveStage)
    (answers : List (Answer Key)) (answered : RemoveAnswered cache kid stage) :
    ∃ last, resumeAll ops cache (.removeTokenBindingKey kid stage) answers = (cache, .removeTokenBindingKey kid last) ∧
      RemoveAnswered cache kid last := by
  induction answers generalizing stage with
  | nil => exact ⟨stage, rfl, answered⟩
  | cons answer answers ih =>
    obtain ⟨rejects, keyPair, deleted⟩ := answer
    cases stage with
    | removeItem => exact absurd answered id
    | containsKey => cases rejects <;> exact ih _ (by simp [RemoveStage.resume, resolving, RemoveAnswered])
    | returned result => exact ih _ answered

/-- `removeTokenBindingKey` removes `kid` when its `removeItem` goes through and changes nothing
otherwise; when it returns, it returns whether `kid` is absent afterwards. -/
theorem perform_remove (cache : CryptoKeyStore Key) (kid : String) (answers : List (Answer Key)) :
    ∃ last, perform ops cache (.removeTokenBindingKey kid) answers =
        (if firstResolves answers then { cache with asymmetricKeys := cache.asymmetricKeys.removeItem kid }
          else cache, .removeTokenBindingKey kid last) ∧
      ∀ removed, last = .returned (.ok removed) →
        removed = !((perform ops cache (.removeTokenBindingKey kid) answers).1.asymmetricKeys kid).isSome := by
  rcases answers with _ | ⟨⟨_ | error, keyPair, deleted⟩, answers⟩
  · exact ⟨.removeItem, rfl, fun _ => nofun⟩
  · obtain ⟨last, done, answered⟩ := resumeAll_remove ops { cache with asymmetricKeys := cache.asymmetricKeys.removeItem kid }
      kid .containsKey answers trivial
    have performed : perform ops cache (.removeTokenBindingKey kid) (⟨none, keyPair, deleted⟩ :: answers) =
        ({ cache with asymmetricKeys := cache.asymmetricKeys.removeItem kid }, .removeTokenBindingKey kid last) :=
      done
    refine ⟨last, performed, fun removed returned => ?_⟩
    rw [performed]
    subst returned
    exact answered
  · refine ⟨.returned (.error (.platform error)), resumeAll_done ops cache _ answers trivial, fun _ => nofun⟩

theorem perform_clear (cache : CryptoKeyStore Key) (answers : List (Answer Key)) :
    ∃ last, perform ops cache .clearKeystore answers =
      (if effect answers (.clearKeystore last) = .cleared then { cache with asymmetricKeys := .empty } else cache,
        .clearKeystore last) := by
  rcases answers with _ | ⟨⟨_ | error, keyPair, deleted⟩, answers⟩
  · exact ⟨.deleteDatabase .asymmetricKeys, rfl⟩
  · cases deleted
    · exact ⟨.returned (.ok false), resumeAll_done ops _ _ answers trivial⟩
    · exact ⟨.returned (.ok true), resumeAll_done ops _ _ answers trivial⟩
  · exact ⟨.returned (.error (.platform error)), resumeAll_done ops _ _ answers trivial⟩

theorem perform_thumbprint (cache : CryptoKeyStore Key) (request : SignedHttpRequestParameters)
    (keyType : Option CryptoKeyTypes) (answers : List (Answer Key)) :
    ∃ last, (perform ops cache (.getPublicKeyThumbprint request keyType) answers).2 =
        .getPublicKeyThumbprint request keyType last ∧
      ThumbprintSolo cache (perform ops cache (.getPublicKeyThumbprint request keyType) answers).1 last :=
  resumeAll_thumbprint ops cache request keyType .generateKeyPair answers rfl

/-- The operation a call in flight is running. -/
def operationOf : Call Key → Operation
  | .getPublicKeyThumbprint request keyType _ => .getPublicKeyThumbprint request keyType
  | .removeTokenBindingKey kid _ => .removeTokenBindingKey kid
  | .clearKeystore _ => .clearKeystore
  | .signJwt payload kid _ => .signJwt payload kid
  | .getAsymmetricPublicKey keyThumbprint _ => .getAsymmetricPublicKey keyThumbprint

theorem operationOf_perform (cache : CryptoKeyStore Key) (operation : Operation) (answers : List (Answer Key)) :
    operationOf (perform ops cache operation answers).2 = operation := by
  suffices resumed : ∀ (cache : CryptoKeyStore Key) (call : Call Key),
      operationOf (resumeAll ops cache call answers).2 = operationOf call by
    rw [perform, resumed]
    cases operation <;> rfl
  induction answers with
  | nil => exact fun _ _ => rfl
  | cons answer answers ih => exact fun cache call => (ih _ _).trans (by cases call <;> rfl)

/-- `signJwt` and `getAsymmetricPublicKey` only read the store. -/
theorem effect_of_lookup (answers : List (Answer Key)) (call : Call Key)
    (lookup : (∃ payload kid, operationOf call = .signJwt payload kid) ∨
      ∃ keyThumbprint, operationOf call = .getAsymmetricPublicKey keyThumbprint) :
    effect answers call = .unchanged := by
  rcases call with ⟨⟩ | ⟨⟩ | ⟨⟩ | ⟨⟩ | ⟨⟩ <;> first | rfl | simp [operationOf] at lookup

/-- The key `signJwt` and `getAsymmetricPublicKey` look up; no other call looks one up. -/
def lookedUp : Operation → Option String
  | .signJwt _ kid | .getAsymmetricPublicKey kid => some kid
  | _ => none

/-- A `signJwt` or `getAsymmetricPublicKey` call of `operation` that threw `error`. -/
def thrownBy (error : CryptoOpsError) : Operation → Option (Call Key)
  | .signJwt payload kid => some (.signJwt payload kid (.returned (.error error)))
  | .getAsymmetricPublicKey keyThumbprint => some (.getAsymmetricPublicKey keyThumbprint (.returned (.error error)))
  | _ => none

/-- A `signJwt` or `getAsymmetricPublicKey` call past a lookup that found its key. -/
def Found : Call Key → Prop
  | .signJwt _ _ (.exportJwk _) | .signJwt _ _ (.sign _ _) | .getAsymmetricPublicKey _ (.exportJwk _) => True
  | .signJwt _ _ (.returned result) | .getAsymmetricPublicKey _ (.returned result) =>
    result ≠ .error (.browserAuth .signingKeyNotFoundInStorage)
  | _ => False

theorem resume_found (cache : CryptoKeyStore Key) (answer : Answer Key) {call : Call Key} (found : Found call) :
    Found (call.resume ops cache answer).2.1 := by
  obtain ⟨rejects, keyPair, deleted⟩ := answer
  rcases call with ⟨⟩ | ⟨⟩ | ⟨⟩ | ⟨payload, kid, _ | cachedKeyPair | _ | _⟩ | ⟨_, _ | _ | _⟩
  case signJwt.exportJwk =>
    cases rejects <;> cases built : ops.tokenString payload (ops.browserCrypto.exportJwk cachedKeyPair.publicKey) <;>
      simp [Call.resume, SignStage.resume, resolving, Found, built]
  all_goals cases rejects <;>
    simp_all [Found, Call.resume, SignStage.resume, PublicKeyStage.resume, resolving]

theorem resumeAll_found (cache : CryptoKeyStore Key) (call : Call Key) (answers : List (Answer Key))
    (found : Found call) : Found (resumeAll ops cache call answers).2 := by
  induction answers generalizing cache call with
  | nil => exact found
  | cons answer answers ih => exact ih _ _ (resume_found ops cache answer found)

theorem found_ne_thrownBy {call : Call Key} (found : Found call) :
    some call ≠ thrownBy (.browserAuth .signingKeyNotFoundInStorage) (operationOf call) := by
  rcases call with ⟨⟩ | ⟨⟩ | ⟨⟩ | ⟨_, _, _ | _ | _ | _⟩ | ⟨_, _ | _ | _⟩ <;> simp_all [Found, thrownBy, operationOf]

theorem done_of_thrownBy {error : CryptoOpsError} {operation : Operation} {call : Call Key}
    (thrown : some call = thrownBy error operation) : Done call := by
  cases operation <;> cases thrown <;> trivial

/-- The first await of `signJwt` and `getAsymmetricPublicKey`: the call throws what its lookup
throws, or goes on past a lookup that found its key. -/
theorem resume_lookup (cache : CryptoKeyStore Key) (answer : Answer Key) {operation : Operation} {kid : String}
    (lookup : lookedUp operation = some kid) :
    (∀ error, getCachedKeyPair cache kid answer = .error error →
      some ((operation.start : Call Key).resume ops cache answer).2.1 = thrownBy error operation) ∧
    ∀ cachedKeyPair, getCachedKeyPair cache kid answer = .ok cachedKeyPair →
      Found ((operation.start : Call Key).resume ops cache answer).2.1 := by
  cases operation <;> cases lookup <;>
    exact ⟨fun _ got => by simp [Operation.start, Call.resume, SignStage.resume, PublicKeyStage.resume, got, thrownBy],
      fun _ got => by simp [Operation.start, Call.resume, SignStage.resume, PublicKeyStage.resume, got, Found]⟩

/-- `signJwt` and `getAsymmetricPublicKey` throw `SigningKeyNotFoundInStorage` exactly when their lookup
goes through and finds no entry under the key. -/
theorem perform_lookup_not_found (cache : CryptoKeyStore Key) (operation : Operation) {kid : String}
    (answers : List (Answer Key)) (lookup : lookedUp operation = some kid) :
    some (perform ops cache operation answers).2 = thrownBy (.browserAuth .signingKeyNotFoundInStorage) operation ↔
      firstResolves answers ∧ cache.asymmetricKeys kid = none := by
  rcases answers with _ | ⟨answer, answers⟩
  · cases operation <;> cases lookup <;> simp [perform, resumeAll, Operation.start, thrownBy, firstResolves]
  rw [firstResolves, ← getCachedKeyPair_notFound]
  obtain ⟨thrown, found⟩ := resume_lookup ops cache answer lookup
  cases got : getCachedKeyPair cache kid answer with
  | error error =>
    rw [perform, resumeAll, resumeAll_done ops _ _ answers (done_of_thrownBy (thrown error got)), thrown error got]
    cases operation <;> cases lookup <;> simp [thrownBy]
  | ok cachedKeyPair =>
    have stillFound := resumeAll_found ops (operation.start.resume ops cache answer).1 _ answers (found _ got)
    rw [← resumeAll, ← perform] at stillFound
    simpa [operationOf_perform] using found_ne_thrownBy stillFound

/-- One call changes whether `kid` has an entry as its effect says. -/
theorem perform_live (cache : CryptoKeyStore Key) (operation : Operation) (answers : List (Answer Key)) (kid : String) :
    ((perform ops cache operation answers).1.asymmetricKeys kid).isSome =
      (effect answers (perform ops cache operation answers).2).live kid (cache.asymmetricKeys kid).isSome := by
  cases operation with
  | getPublicKeyThumbprint request keyType =>
    obtain ⟨last, call, solo⟩ := perform_thumbprint ops cache request keyType answers
    rw [call]
    rcases last with _ | _ | _ | _ | _ | _ | ⟨_ | key⟩
    case returned.ok =>
      obtain ⟨entry, stored⟩ := solo
      by_cases same : kid = key
      · subst same
        simp [stored, effect, Effect.live]
      · simp [stored, effect, Effect.live, same, Ne.symm same]
    all_goals simp only [ThumbprintSolo] at solo; simp [solo, effect, Effect.live]
  | removeTokenBindingKey key =>
    obtain ⟨last, done, -⟩ := perform_remove ops cache key answers
    rw [done]
    simp only [effect]
    by_cases same : kid = key
    · subst same
      cases firstResolves answers <;> simp [Effect.live]
    · cases firstResolves answers <;> simp [Effect.live, same, Ne.symm same]
  | clearKeystore =>
    obtain ⟨last, done⟩ := perform_clear ops cache answers
    rw [done]
    rcases last with _ | ⟨_ | _ | _⟩ <;> simp [effect, Effect.live]
  | signJwt payload key =>
    have shape := operationOf_perform ops cache (.signJwt payload key) answers
    rw [effect_of_lookup answers _ (.inl ⟨payload, key, shape⟩)]
    exact congrArg (fun store : CryptoKeyStore Key => (store.asymmetricKeys kid).isSome)
      (resumeAll_settled ops cache _ answers trivial)
  | getAsymmetricPublicKey keyThumbprint =>
    have shape := operationOf_perform ops cache (.getAsymmetricPublicKey keyThumbprint) answers
    rw [effect_of_lookup answers _ (.inr ⟨keyThumbprint, shape⟩)]
    exact congrArg (fun store : CryptoKeyStore Key => (store.asymmetricKeys kid).isSome)
      (resumeAll_settled ops cache _ answers trivial)

/-- The store after calls made one after another has an entry under exactly the registered
thumbprints: the effects refine the store. -/
theorem runSequential_registered (history : List (Operation × List (Answer Key))) (kid : String) :
    ((runSequential ops history).1.asymmetricKeys kid).isSome = registered kid (runSequential ops history).2 := by
  suffices steps : ∀ state : CryptoKeyStore Key × List Effect,
      (∀ kid, (state.1.asymmetricKeys kid).isSome = registered kid state.2) →
      ∀ kid, ((history.foldl (fun state call =>
        ((perform ops state.1 call.1 call.2).1, effect call.2 (perform ops state.1 call.1 call.2).2 :: state.2))
          state).1.asymmetricKeys kid).isSome =
        registered kid (history.foldl (fun state call =>
          ((perform ops state.1 call.1 call.2).1, effect call.2 (perform ops state.1 call.1 call.2).2 :: state.2))
            state).2 from
    steps (.empty, []) (fun _ => rfl) kid
  induction history with
  | nil => exact fun _ agrees => agrees
  | cons call history ih =>
    refine fun state agrees => ih _ fun kid => ?_
    rw [perform_live, registered_cons, agrees]

/-! ### Runs of calls made one after another -/

/-- After calls made one after another, any await failing: a lookup throws `SigningKeyNotFoundInStorage`
exactly when it goes through and `kid` is not registered; a thrown `getPublicKeyThumbprint` leaves the
store as it was; a removal changes no other entry and returns whether `kid` is gone. -/
theorem sequential_signing_keys (history : List (Operation × List (Answer Key))) :
    let cache := (runSequential ops history).1
    let effects := (runSequential ops history).2
    (∀ payload kid answers,
      (perform ops cache (.signJwt payload kid) answers).2 =
          .signJwt payload kid (.returned (.error (.browserAuth .signingKeyNotFoundInStorage))) ↔
        firstResolves answers ∧ registered kid effects = false) ∧
    (∀ kid answers,
      (perform ops cache (.getAsymmetricPublicKey kid) answers).2 =
          .getAsymmetricPublicKey kid (.returned (.error (.browserAuth .signingKeyNotFoundInStorage))) ↔
        firstResolves answers ∧ registered kid effects = false) ∧
    (∀ request keyType answers error,
      (perform ops cache (.getPublicKeyThumbprint request keyType) answers).2 =
          .getPublicKeyThumbprint request keyType (.returned (.error error)) →
        (perform ops cache (.getPublicKeyThumbprint request keyType) answers).1 = cache) ∧
    (∀ kid answers,
      (∀ other, other ≠ kid →
        (perform ops cache (.removeTokenBindingKey kid) answers).1.asymmetricKeys other = cache.asymmetricKeys other) ∧
      (perform ops cache (.removeTokenBindingKey kid) answers).1.symmetricKeys = cache.symmetricKeys ∧
      ∀ removed, (perform ops cache (.removeTokenBindingKey kid) answers).2 =
          .removeTokenBindingKey kid (.returned (.ok removed)) →
        (removed = true ↔ (perform ops cache (.removeTokenBindingKey kid) answers).1.asymmetricKeys kid = none)) := by
  intro cache effects
  have absent : ∀ kid, cache.asymmetricKeys kid = none ↔ registered kid effects = false := fun kid => by
    rw [← runSequential_registered]
    simp [cache]
  refine ⟨fun payload kid answers => ?_, fun kid answers => ?_, fun request keyType answers error thrown => ?_,
    fun kid answers => ?_⟩
  · rw [← absent, ← perform_lookup_not_found ops cache (.signJwt payload kid) answers rfl, thrownBy, Option.some_inj]
  · rw [← absent, ← perform_lookup_not_found ops cache (.getAsymmetricPublicKey kid) answers rfl, thrownBy,
      Option.some_inj]
  · obtain ⟨last, call, solo⟩ := perform_thumbprint ops cache request keyType answers
    rw [call, Call.getPublicKeyThumbprint.injEq] at thrown
    rw [thrown.2.2] at solo
    exact solo
  · obtain ⟨last, done, answered⟩ := perform_remove ops cache kid answers
    refine ⟨fun other differ => ?_, ?_, fun removed returned => ?_⟩
    · rw [done]
      cases firstResolves answers <;> simp [differ]
    · rw [done]
      cases firstResolves answers <;> rfl
    · rw [done, Call.removeTokenBindingKey.injEq] at returned
      rw [answered removed returned.2]
      simp

theorem signJwt_after_failed_removal :
    (perform fixedOps .empty (.getPublicKeyThumbprint ⟨none, none⟩ none)
        [⟨none, some ⟨some 1, some 2⟩, false⟩, resolved, resolved, resolved, resolved, resolved]).2 =
      .getPublicKeyThumbprint ⟨none, none⟩ none (.returned (.ok "k")) ∧
    (perform fixedOps (perform fixedOps .empty (.getPublicKeyThumbprint ⟨none, none⟩ none)
        [⟨none, some ⟨some 1, some 2⟩, false⟩, resolved, resolved, resolved, resolved, resolved]).1
        (.removeTokenBindingKey "k") [⟨some ⟨none⟩, none, false⟩]).2 =
      .removeTokenBindingKey "k" (.returned (.error (.platform ⟨none⟩))) ∧
    (perform fixedOps (runSequential fixedOps
        [(.getPublicKeyThumbprint ⟨none, none⟩ none,
            [⟨none, some ⟨some 1, some 2⟩, false⟩, resolved, resolved, resolved, resolved, resolved]),
          (.removeTokenBindingKey "k", [⟨some ⟨none⟩, none, false⟩])]).1
        (.signJwt [] "k") [resolved, resolved, resolved]).2 =
      .signJwt [] "k" (.returned (.ok "h.h.k")) :=
  ⟨rfl, rfl, rfl⟩

/-- `clearKeystore` never touches the symmetric partition, and when it returns `true` the
asymmetric partition is empty. -/
theorem clearKeystore_asymmetric_only (cache : CryptoKeyStore Key) (answers : List (Answer Key)) :
    (perform ops cache .clearKeystore answers).1.symmetricKeys = cache.symmetricKeys ∧
      ((perform ops cache .clearKeystore answers).2 = .clearKeystore (.returned (.ok true)) →
        ∀ kid, (perform ops cache .clearKeystore answers).1.asymmetricKeys kid = none) := by
  obtain ⟨last, done⟩ := perform_clear ops cache answers
  rw [done, Call.clearKeystore.injEq]
  refine ⟨by split <;> rfl, fun returned kid => ?_⟩
  subst returned
  rfl

theorem clearKeystore_keeps_symmetric_key :
    (perform fixedOps ⟨AsyncMemoryStorage.empty.setItem "k" ⟨1, 7, none, none⟩, AsyncMemoryStorage.empty.setItem "k" 5⟩
        .clearKeystore [⟨none, none, true⟩]).2 = .clearKeystore (.returned (.ok true)) ∧
    (perform fixedOps ⟨AsyncMemoryStorage.empty.setItem "k" ⟨1, 7, none, none⟩, AsyncMemoryStorage.empty.setItem "k" 5⟩
        .clearKeystore [⟨none, none, true⟩]).1.symmetricKeys "k" = some 5 :=
  ⟨rfl, rfl⟩

end Msal.KeyStore.Sequential
