import Msal.KeyStore.Operations

/-! Any number of `CryptoOps` calls on one key store, interleaved at their awaits. A run starts
calls and resumes any call in flight with any answer from the platform. The ghost log `generated`
records each key pair a `generateKeyPair` resolved with, and the call that asked for it; the store
invariant says every entry is what `getPublicKeyThumbprint` writes for one of them. -/

namespace Msal.KeyStore.Interleaving
open Msal.Json.Stringify Msal.KeyStore.Operations

variable {Key : Type}

/-- The key store, the calls in flight, and the ghost log of generated key pairs. -/
structure System (Key : Type) where
  cache : CryptoKeyStore Key
  calls : List (Call Key)
  generated : List (KeyGeneration Key)

inductive Event (Key : Type)
  | start (operation : Operation)
  | resume (index : Nat) (answer : Answer Key)

def System.init : System Key := ⟨.empty, [], []⟩

variable (ops : CryptoOps Key)

def System.step (sys : System Key) : Event Key → System Key
  | .start operation => { sys with calls := sys.calls ++ [operation.start] }
  | .resume index answer =>
    match sys.calls[index]? with
    | none => sys
    | some call =>
      let next := call.resume ops sys.cache answer
      ⟨next.1, sys.calls.set index next.2.1, sys.generated ++ next.2.2.toList⟩

def run (events : List (Event Key)) : System Key := events.foldl (System.step ops) System.init

/-- The entry `getPublicKeyThumbprint` stores for a generated key pair: the public key, the private
key re-imported as non-extractable under the call's key profile, and the call's request. -/
def storedPair (generation : KeyGeneration Key) : CachedKeyPair Key :=
  ⟨generation.publicKey,
    ops.browserCrypto.importJwk (ops.keyOptions generation.keyType)
      (ops.browserCrypto.exportJwk generation.privateKey) false
      (ops.keyOptions generation.keyType).privateKeyUsage,
    generation.request.resourceRequestMethod, generation.request.resourceRequestUri⟩

/-- `entry` is what `getPublicKeyThumbprint` stores under `kid` for a key pair of `generated`. -/
def Written (generated : List (KeyGeneration Key)) (kid : String) (entry : CachedKeyPair Key) : Prop :=
  ∃ generation ∈ generated, kid = ops.publicKeyThumbprint generation.publicKey ∧
    entry = storedPair ops generation

def StoreValid (generated : List (KeyGeneration Key)) (cache : CryptoKeyStore Key) : Prop :=
  ∀ kid entry, cache.asymmetricKeys kid = some entry → Written ops generated kid entry

/-- What a `getPublicKeyThumbprint` call holds at each await: the key pair it generated, and the
thumbprint and re-imported private key computed from it. -/
def ThumbprintValid (generated : List (KeyGeneration Key)) (request : SignedHttpRequestParameters)
    (keyType : Option CryptoKeyTypes) : ThumbprintStage Key → Prop
  | .generateKeyPair => True
  | .exportPublicKey publicKey privateKey => ⟨request, keyType, publicKey, privateKey⟩ ∈ generated
  | .hashString publicKey privateKey publicJwkString =>
    ⟨request, keyType, publicKey, privateKey⟩ ∈ generated ∧
      publicJwkString = getJwkString (thumbprintObject (ops.browserCrypto.exportJwk publicKey).toJs)
  | .exportPrivateKey publicKey privateKey publicJwkHash =>
    ⟨request, keyType, publicKey, privateKey⟩ ∈ generated ∧
      publicJwkHash = ops.publicKeyThumbprint publicKey
  | .importJwk publicKey publicJwkHash privateKeyJwk =>
    ∃ privateKey, ⟨request, keyType, publicKey, privateKey⟩ ∈ generated ∧
      publicJwkHash = ops.publicKeyThumbprint publicKey ∧
      privateKeyJwk = ops.browserCrypto.exportJwk privateKey
  | .setItem publicKey publicJwkHash unextractablePrivateKey =>
    ∃ privateKey, ⟨request, keyType, publicKey, privateKey⟩ ∈ generated ∧
      publicJwkHash = ops.publicKeyThumbprint publicKey ∧
      unextractablePrivateKey = ops.browserCrypto.importJwk (ops.keyOptions keyType)
        (ops.browserCrypto.exportJwk privateKey) false (ops.keyOptions keyType).privateKeyUsage
  | .returned (.ok publicJwkHash) =>
    ∃ publicKey privateKey, ⟨request, keyType, publicKey, privateKey⟩ ∈ generated ∧
      publicJwkHash = ops.publicKeyThumbprint publicKey
  | .returned (.error _) => True

/-- What a `signJwt` call holds at each await: a written key pair, read under `kid`, and the token
built from it. -/
def SignValid (generated : List (KeyGeneration Key)) (payload : List (String × JsValue)) (kid : String) :
    SignStage Key → Prop
  | .getItem => True
  | .exportJwk cachedKeyPair => Written ops generated kid cachedKeyPair
  | .sign cachedKeyPair tokenString =>
    Written ops generated kid cachedKeyPair ∧
      ops.tokenString payload (ops.browserCrypto.exportJwk cachedKeyPair.publicKey) = some tokenString
  | .returned (.ok token) =>
    ∃ cachedKeyPair tokenString, Written ops generated kid cachedKeyPair ∧
      ops.tokenString payload (ops.browserCrypto.exportJwk cachedKeyPair.publicKey) = some tokenString ∧
      token = tokenString ++ "." ++ ops.encodedSignature cachedKeyPair.privateKey tokenString
  | .returned (.error _) => True

def PublicKeyValid (generated : List (KeyGeneration Key)) (keyThumbprint : String) :
    PublicKeyStage Key → Prop
  | .getItem => True
  | .exportJwk cachedKeyPair => Written ops generated keyThumbprint cachedKeyPair
  | .returned (.ok publicKeyJwk) =>
    ∃ cachedKeyPair, Written ops generated keyThumbprint cachedKeyPair ∧
      publicKeyJwk = getJwkString (ops.browserCrypto.exportJwk cachedKeyPair.publicKey).toJs
  | .returned (.error _) => True

def CallValid (generated : List (KeyGeneration Key)) : Call Key → Prop
  | .getPublicKeyThumbprint request keyType stage => ThumbprintValid ops generated request keyType stage
  | .signJwt payload kid stage => SignValid ops generated payload kid stage
  | .getAsymmetricPublicKey keyThumbprint stage => PublicKeyValid ops generated keyThumbprint stage
  | .removeTokenBindingKey _ _ | .clearKeystore _ => True

structure System.Valid (sys : System Key) : Prop where
  store : StoreValid ops sys.generated sys.cache
  calls : ∀ call ∈ sys.calls, CallValid ops sys.generated call

/-! ### The ghost log only grows -/

section Growth
variable {ops} {generated more : List (KeyGeneration Key)} (sub : generated ⊆ more)
include sub

theorem written_mono {kid : String} {entry : CachedKeyPair Key} :
    Written ops generated kid entry → Written ops more kid entry
  | ⟨generation, found, named, stored⟩ => ⟨generation, sub found, named, stored⟩

theorem storeValid_mono {cache : CryptoKeyStore Key} (store : StoreValid ops generated cache) :
    StoreValid ops more cache :=
  fun kid entry found => written_mono sub (store kid entry found)

theorem thumbprintValid_mono {request : SignedHttpRequestParameters} {keyType : Option CryptoKeyTypes} :
    (stage : ThumbprintStage Key) → ThumbprintValid ops generated request keyType stage →
      ThumbprintValid ops more request keyType stage
  | .generateKeyPair, _ | .returned (.error _), _ => trivial
  | .exportPublicKey .., found => sub found
  | .returned (.ok _), ⟨publicKey, privateKey, found, hashed⟩ => ⟨publicKey, privateKey, sub found, hashed⟩
  | .hashString .., ⟨found, computed⟩ | .exportPrivateKey .., ⟨found, computed⟩ => ⟨sub found, computed⟩
  | .importJwk .., ⟨privateKey, found, hashed, exported⟩ | .setItem .., ⟨privateKey, found, hashed, exported⟩ =>
    ⟨privateKey, sub found, hashed, exported⟩

theorem signValid_mono {payload : List (String × JsValue)} {kid : String} :
    (stage : SignStage Key) → SignValid ops generated payload kid stage → SignValid ops more payload kid stage
  | .getItem, _ | .returned (.error _), _ => trivial
  | .exportJwk _, written => written_mono sub written
  | .sign .., ⟨written, built⟩ => ⟨written_mono sub written, built⟩
  | .returned (.ok _), ⟨cachedKeyPair, tokenString, written, built, signed⟩ =>
    ⟨cachedKeyPair, tokenString, written_mono sub written, built, signed⟩

theorem publicKeyValid_mono {keyThumbprint : String} :
    (stage : PublicKeyStage Key) → PublicKeyValid ops generated keyThumbprint stage →
      PublicKeyValid ops more keyThumbprint stage
  | .getItem, _ | .returned (.error _), _ => trivial
  | .exportJwk _, written => written_mono sub written
  | .returned (.ok _), ⟨cachedKeyPair, written, exported⟩ => ⟨cachedKeyPair, written_mono sub written, exported⟩

theorem callValid_mono : (call : Call Key) → CallValid ops generated call → CallValid ops more call
  | .getPublicKeyThumbprint _ _ stage, valid => thumbprintValid_mono sub stage valid
  | .signJwt _ _ stage, valid => signValid_mono sub stage valid
  | .getAsymmetricPublicKey _ stage, valid => publicKeyValid_mono sub stage valid
  | .removeTokenBindingKey _ _, _ | .clearKeystore _, _ => trivial

end Growth

/-! ### What one resumed call keeps -/

section Resume
variable {ops} {generated : List (KeyGeneration Key)} {cache : CryptoKeyStore Key}

theorem storeValid_setItem (store : StoreValid ops generated cache) {kid : String} {entry : CachedKeyPair Key}
    (written : Written ops generated kid entry) :
    StoreValid ops generated { cache with asymmetricKeys := cache.asymmetricKeys.setItem kid entry } := by
  intro name stored found
  by_cases same : name = kid
  · subst same
    simp only [AsyncMemoryStorage.setItem_apply, ite_true, Option.some.injEq] at found
    exact found ▸ written
  · simp only [AsyncMemoryStorage.setItem_apply, same, if_false] at found
    exact store name stored found

/-- Removing entries keeps the store invariant. -/
theorem storeValid_of_subset (store : StoreValid ops generated cache) {smaller : CryptoKeyStore Key}
    (kept : ∀ kid entry, smaller.asymmetricKeys kid = some entry → cache.asymmetricKeys kid = some entry) :
    StoreValid ops generated smaller :=
  fun kid entry found => store kid entry (kept kid entry found)

/-- Resuming a `getPublicKeyThumbprint` call keeps its invariant, with the key pair it generates now. -/
theorem thumbprintValid_resume (request : SignedHttpRequestParameters) (keyType : Option CryptoKeyTypes)
    (answer : Answer Key) (stage : ThumbprintStage Key) (valid : ThumbprintValid ops generated request keyType stage) :
    let next := stage.resume ops request keyType cache answer
    ThumbprintValid ops (generated ++ next.2.2.toList) request keyType next.2.1 := by
  obtain ⟨rejects, keyPair, deleted⟩ := answer
  cases stage with
  | generateKeyPair =>
    rcases rejects with _ | error <;> rcases keyPair with _ | ⟨_ | publicKey, _ | privateKey⟩ <;>
      simp [ThumbprintStage.resume, ThumbprintValid]
  | exportPublicKey publicKey privateKey =>
    cases rejects
    · simpa [ThumbprintStage.resume, resolving, ThumbprintValid] using valid
    · simp [ThumbprintStage.resume, resolving, ThumbprintValid]
  | hashString publicKey privateKey publicJwkString =>
    obtain ⟨found, rfl⟩ := valid
    cases rejects <;> simp [ThumbprintStage.resume, resolving, ThumbprintValid, found, CryptoOps.publicKeyThumbprint]
  | exportPrivateKey publicKey privateKey publicJwkHash =>
    obtain ⟨found, hashed⟩ := valid
    cases rejects
    · simpa [ThumbprintStage.resume, resolving, ThumbprintValid] using ⟨privateKey, found, hashed, rfl⟩
    · simp [ThumbprintStage.resume, resolving, ThumbprintValid]
  | importJwk publicKey publicJwkHash privateKeyJwk =>
    obtain ⟨privateKey, found, hashed, rfl⟩ := valid
    cases rejects
    · simpa [ThumbprintStage.resume, resolving, ThumbprintValid] using ⟨privateKey, found, hashed, rfl⟩
    · simp [ThumbprintStage.resume, resolving, ThumbprintValid]
  | setItem publicKey publicJwkHash unextractablePrivateKey =>
    obtain ⟨privateKey, found, hashed, -⟩ := valid
    cases rejects
    · simp only [ThumbprintStage.resume, Option.toList_none, List.append_nil]
      exact ⟨_, _, found, hashed⟩
    · simp [ThumbprintStage.resume, ThumbprintValid]
  | returned result => simpa [ThumbprintStage.resume] using valid

theorem thumbprint_resume_valid (request : SignedHttpRequestParameters) (keyType : Option CryptoKeyTypes)
    (answer : Answer Key) (stage : ThumbprintStage Key) (store : StoreValid ops generated cache)
    (valid : ThumbprintValid ops generated request keyType stage) :
    let next := stage.resume ops request keyType cache answer
    StoreValid ops (generated ++ next.2.2.toList) next.1 ∧
      ThumbprintValid ops (generated ++ next.2.2.toList) request keyType next.2.1 := by
  refine ⟨?_, thumbprintValid_resume request keyType answer stage valid⟩
  obtain ⟨rejects, keyPair, deleted⟩ := answer
  cases stage with
  | setItem publicKey publicJwkHash unextractablePrivateKey =>
    obtain ⟨privateKey, found, hashed, imported⟩ := valid
    rcases rejects with _ | error
    · simp only [ThumbprintStage.resume, Option.toList_none, List.append_nil]
      exact storeValid_setItem store ⟨_, found, hashed, by rw [imported]; rfl⟩
    · simpa [ThumbprintStage.resume] using store
  | _ =>
    refine storeValid_mono (List.subset_append_left _ _) ?_
    rcases rejects with _ | _ <;> rcases keyPair with _ | ⟨_ | _, _ | _⟩ <;> exact store

theorem remove_resume_kept (kid : String) (answer : Answer Key) (stage : RemoveStage) {name : String}
    {entry : CachedKeyPair Key} (found : (stage.resume kid cache answer).1.asymmetricKeys name = some entry) :
    cache.asymmetricKeys name = some entry := by
  obtain ⟨_ | _, keyPair, deleted⟩ := answer <;> cases stage <;>
    simp_all [RemoveStage.resume, resolving, ite_eq_iff]

theorem clear_resume_kept (answer : Answer Key) (stage : ClearStage) {name : String}
    {entry : CachedKeyPair Key} (found : (stage.resume cache answer).1.asymmetricKeys name = some entry) :
    cache.asymmetricKeys name = some entry := by
  obtain ⟨rejects, keyPair, deleted⟩ := answer
  cases stage with
  | deleteDatabase partition =>
    cases rejects
    · simp only [ClearStage.resume, CryptoKeyStore.deleteDatabase_asymmetricKeys] at found
      split_ifs at found
      · simp at found
      · exact found
    · exact found
  | returned result => exact found

theorem sign_resume_valid (payload : List (String × JsValue)) (kid : String) (answer : Answer Key)
    (stage : SignStage Key) (store : StoreValid ops generated cache)
    (valid : SignValid ops generated payload kid stage) :
    SignValid ops generated payload kid (stage.resume ops payload kid cache answer) := by
  obtain ⟨rejects, keyPair, deleted⟩ := answer
  cases stage with
  | getItem =>
    cases got : getCachedKeyPair cache kid ⟨rejects, keyPair, deleted⟩
    · simp [SignStage.resume, got, SignValid]
    · simpa [SignStage.resume, got, SignValid] using store _ _ (getCachedKeyPair_ok got)
  | exportJwk cachedKeyPair =>
    cases rejects
    · cases built : ops.tokenString payload (ops.browserCrypto.exportJwk cachedKeyPair.publicKey)
      · simp [SignStage.resume, resolving, built, SignValid]
      · simpa [SignStage.resume, resolving, built, SignValid] using valid
    · simp [SignStage.resume, resolving, SignValid]
  | sign cachedKeyPair tokenString =>
    obtain ⟨written, built⟩ := valid
    cases rejects
    · simpa [SignStage.resume, resolving, SignValid] using ⟨cachedKeyPair, written, tokenString, built, rfl⟩
    · simp [SignStage.resume, resolving, SignValid]
  | returned result => simpa [SignStage.resume] using valid

theorem publicKey_resume_valid (keyThumbprint : String) (answer : Answer Key) (stage : PublicKeyStage Key)
    (store : StoreValid ops generated cache) (valid : PublicKeyValid ops generated keyThumbprint stage) :
    PublicKeyValid ops generated keyThumbprint (stage.resume ops keyThumbprint cache answer) := by
  obtain ⟨rejects, keyPair, deleted⟩ := answer
  cases stage with
  | getItem =>
    cases got : getCachedKeyPair cache keyThumbprint ⟨rejects, keyPair, deleted⟩
    · simp [PublicKeyStage.resume, got, PublicKeyValid]
    · simpa [PublicKeyStage.resume, got, PublicKeyValid] using store _ _ (getCachedKeyPair_ok got)
  | exportJwk cachedKeyPair =>
    cases rejects
    · simpa [PublicKeyStage.resume, resolving, PublicKeyValid] using ⟨cachedKeyPair, valid, rfl⟩
    · simp [PublicKeyStage.resume, resolving, PublicKeyValid]
  | returned result => simpa [PublicKeyStage.resume] using valid

/-- Resuming any call keeps the store invariant and the call's own invariant. -/
theorem callValid_resume (answer : Answer Key) (call : Call Key) (store : StoreValid ops generated cache)
    (valid : CallValid ops generated call) :
    let next := call.resume ops cache answer
    StoreValid ops (generated ++ next.2.2.toList) next.1 ∧
      CallValid ops (generated ++ next.2.2.toList) next.2.1 := by
  cases call with
  | getPublicKeyThumbprint request keyType stage =>
    exact thumbprint_resume_valid request keyType answer stage store valid
  | removeTokenBindingKey kid stage =>
    simpa [Call.resume, CallValid] using
      storeValid_of_subset store fun _ _ => remove_resume_kept kid answer stage
  | clearKeystore stage =>
    simpa [Call.resume, CallValid] using storeValid_of_subset store fun _ _ => clear_resume_kept answer stage
  | signJwt payload kid stage =>
    simpa [Call.resume, CallValid, store] using sign_resume_valid payload kid answer stage store valid
  | getAsymmetricPublicKey keyThumbprint stage =>
    simpa [Call.resume, CallValid, store] using publicKey_resume_valid keyThumbprint answer stage store valid

end Resume

/-! ### Every reachable state -/

theorem callValid_start (generated : List (KeyGeneration Key)) (operation : Operation) :
    CallValid ops generated (operation.start : Call Key) := by
  cases operation <;> trivial

theorem valid_init : (System.init : System Key).Valid ops :=
  ⟨fun _ _ found => by simp [System.init, CryptoKeyStore.empty] at found,
    fun _ found => by simp [System.init] at found⟩

theorem valid_step {sys : System Key} (valid : sys.Valid ops) : (event : Event Key) → (sys.step ops event).Valid ops
  | .start operation => ⟨valid.store, fun call found => by
      rcases List.mem_append.mp found with old | added
      · exact valid.calls call old
      · exact (List.mem_singleton.mp added) ▸ callValid_start ops sys.generated operation⟩
  | .resume index answer => by
    rw [System.step]
    split
    · exact valid
    · next call found =>
      obtain ⟨store, resumed⟩ := callValid_resume answer call valid.store (valid.calls call (List.getElem?_mem found))
      refine ⟨store, fun other listed => ?_⟩
      rcases List.mem_or_eq_of_mem_set listed with old | rfl
      · exact callValid_mono (List.subset_append_left _ _) other (valid.calls other old)
      · exact resumed

theorem valid_run (events : List (Event Key)) : (run ops events).Valid ops := by
  suffices steps : ∀ sys : System Key, sys.Valid ops → (events.foldl (System.step ops) sys).Valid ops from
    steps _ (valid_init ops)
  induction events with
  | nil => exact fun _ valid => valid
  | cons event events ih => exact fun sys valid => ih _ (valid_step ops valid event)

/-- After any interleaving, every stored entry is a generated key pair under its public key's `{e, kty, n}`
thumbprint, the private half re-imported as non-extractable under the call's key profile, with the call's
request method and URI. -/
theorem stored_key_pairs (events : List (Event Key)) (kid : String) (entry : CachedKeyPair Key)
    (stored : (run ops events).cache.asymmetricKeys kid = some entry) :
    ∃ generation ∈ (run ops events).generated,
      let publicJwk := (ops.browserCrypto.exportJwk generation.publicKey).toJs
      kid = ops.hashString
        (getJwkString [("e", get publicJwk "e"), ("kty", get publicJwk "kty"), ("n", get publicJwk "n")]) ∧
      entry.publicKey = generation.publicKey ∧
      entry.privateKey = ops.browserCrypto.importJwk (ops.keyOptions generation.keyType)
        (ops.browserCrypto.exportJwk generation.privateKey) false
        (ops.keyOptions generation.keyType).privateKeyUsage ∧
      entry.requestMethod = generation.request.resourceRequestMethod ∧
      entry.requestUri = generation.request.resourceRequestUri := by
  obtain ⟨generation, generated, named, rfl⟩ := (valid_run ops events).store kid entry stored
  exact ⟨generation, generated, named, rfl, rfl, rfl, rfl⟩

/-- One `getPublicKeyThumbprint` run to its end, then one `signJwt` with the thumbprint it returned. -/
def generateThenSign : List (Event Nat) :=
  [.start (.getPublicKeyThumbprint ⟨some "POST", some "https://a"⟩ none),
    .resume 0 ⟨none, some ⟨some 1, some 2⟩, false⟩, .resume 0 resolved, .resume 0 resolved,
    .resume 0 resolved, .resume 0 resolved, .resume 0 resolved,
    .start (.signJwt [] "k"), .resume 1 resolved, .resume 1 resolved, .resume 1 resolved]

theorem stored_key_pairs_after_one_call :
    (run fixedOps generateThenSign).cache.asymmetricKeys "k" = some ⟨1, 7, some "POST", some "https://a"⟩ ∧
      ∃ generation ∈ (run fixedOps generateThenSign).generated,
        let publicJwk := (fixedOps.browserCrypto.exportJwk generation.publicKey).toJs
        "k" = fixedOps.hashString
          (getJwkString [("e", get publicJwk "e"), ("kty", get publicJwk "kty"), ("n", get publicJwk "n")]) ∧
        1 = generation.publicKey ∧
        7 = fixedOps.browserCrypto.importJwk (fixedOps.keyOptions generation.keyType)
          (fixedOps.browserCrypto.exportJwk generation.privateKey) false
          (fixedOps.keyOptions generation.keyType).privateKeyUsage ∧
        some "POST" = generation.request.resourceRequestMethod ∧
        some "https://a" = generation.request.resourceRequestUri :=
  ⟨rfl, stored_key_pairs fixedOps generateThenSign "k" ⟨1, 7, some "POST", some "https://a"⟩ rfl⟩

end Msal.KeyStore.Interleaving
