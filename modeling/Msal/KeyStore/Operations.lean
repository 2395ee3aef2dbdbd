import Msal.Json.Parse
import Mathlib.Logic.Function.Basic
import Mathlib.Data.List.Sort

/-! The key-store operations of `CryptoOps`: `getPublicKeyThumbprint`, `removeTokenBindingKey`,
`clearKeystore`, `signJwt` and `getAsymmetricPublicKey`. Each call is a state machine that stops at
every `await`; resuming it hands it the platform's answer to the awaited call and runs it to its next
`await`. A storage call takes effect at once and whole, so two calls interleave only between awaits.
`BrowserCrypto`, `Base64Encode` and `AsyncMemoryStorage` are not among the sources: the first two are
the platform's functions, the storage is modelled from the spec. -/

namespace Msal.KeyStore.Operations
open Msal.Json.Stringify Msal.Json.Parse

inductive CryptoKeyTypes
  | ReqCnf
  | StkJwk
  deriving DecidableEq, Repr

/-- `CryptoKeyOptions`: the algorithm a key pair is made for, and the usages of its halves. -/
structure CryptoKeyOptions where
  keyGenAlgorithmOptions : String
  keyUsages : List String
  privateKeyUsage : List String
  deriving DecidableEq, Repr

/-- The two key profiles of `CryptoKeyConfig`. -/
structure CryptoKeyConfig where
  accessTokenBinding : CryptoKeyOptions
  refreshTokenBinding : CryptoKeyOptions

/-- Modelled from the spec (`CryptoKeyFormats` is not among the sources): the signed token's
header type. -/
def CryptoKeyFormats.jwk : String := "jwk"

structure RsaOtherPrimesInfo where
  d : Option String := none
  r : Option String := none
  t : Option String := none
  deriving DecidableEq, Repr

/-- The `JsonWebKey` dictionary `exportJwk` resolves with; every member is optional. -/
structure JsonWebKey where
  alg : Option String := none
  crv : Option String := none
  d : Option String := none
  dp : Option String := none
  dq : Option String := none
  e : Option String := none
  ext : Option Bool := none
  k : Option String := none
  key_ops : Option (List String) := none
  kty : Option String := none
  n : Option String := none
  oth : Option (List RsaOtherPrimesInfo) := none
  p : Option String := none
  q : Option String := none
  qi : Option String := none
  «use» : Option String := none
  x : Option String := none
  y : Option String := none
  deriving DecidableEq, Repr

/-- An optional string property, `undefined` when absent. -/
def optionalString (value : Option String) : JsValue := (value.map .string).getD .undefined

/-- A dictionary member that is present only when it has a value. -/
def optionalMember (name : String) : Option JsValue → List (String × JsValue)
  | some value => [(name, value)]
  | none => []

def RsaOtherPrimesInfo.toJs (info : RsaOtherPrimesInfo) : JsValue :=
  .object (optionalMember "d" (info.d.map .string) ++ optionalMember "r" (info.r.map .string) ++
    optionalMember "t" (info.t.map .string))

/-- The JavaScript object a `JsonWebKey` dictionary converts to: its present members, in the
lexicographic order of dictionary conversion. -/
def JsonWebKey.toJs (jwk : JsonWebKey) : List (String × JsValue) :=
  optionalMember "alg" (jwk.alg.map .string) ++ optionalMember "crv" (jwk.crv.map .string) ++
    optionalMember "d" (jwk.d.map .string) ++ optionalMember "dp" (jwk.dp.map .string) ++
    optionalMember "dq" (jwk.dq.map .string) ++ optionalMember "e" (jwk.e.map .string) ++
    optionalMember "ext" (jwk.ext.map .bool) ++ optionalMember "k" (jwk.k.map .string) ++
    optionalMember "key_ops" (jwk.key_ops.map fun ops => .array (ops.map .string)) ++
    optionalMember "kty" (jwk.kty.map .string) ++ optionalMember "n" (jwk.n.map .string) ++
    optionalMember "oth" (jwk.oth.map fun others => .array (others.map RsaOtherPrimesInfo.toJs)) ++
    optionalMember "p" (jwk.p.map .string) ++ optionalMember "q" (jwk.q.map .string) ++
    optionalMember "qi" (jwk.qi.map .string) ++ optionalMember "use" (jwk.«use».map .string) ++
    optionalMember "x" (jwk.x.map .string) ++ optionalMember "y" (jwk.y.map .string)

/-- The order `Array.prototype.sort` puts strings in by default: by character code, a prefix first. -/
def sortsBefore : List Char → List Char → Bool
  | [], _ => true
  | _ :: _, [] => false
  | a :: rest, b :: others => a.toNat < b.toNat || (a.toNat == b.toNat && sortsBefore rest others)

/-- `Object.keys(jwk).sort()`. -/
def sortedKeys (jwk : List (String × JsValue)) : List String :=
  (keys jwk).insertionSort fun a b => sortsBefore a.data b.data = true

theorem mem_sortedKeys (jwk : List (String × JsValue)) (key : String) : key ∈ sortedKeys jwk ↔ key ∈ keys jwk :=
  (List.perm_insertionSort _ _).mem_iff

/-- Modelled from the spec (`BrowserCrypto.getJwkString` is not among the sources): the JWK as JSON
text with its members in sorted key order, `JSON.stringify(jwk, Object.keys(jwk).sort())`. -/
def getJwkString (jwk : List (String × JsValue)) : String :=
  stringifyObject jwk (some (sortedKeys jwk))

/-- `{e: jwk.e, kty: jwk.kty, n: jwk.n}`, the object a key's thumbprint is taken from. -/
def thumbprintObject (jwk : List (String × JsValue)) : List (String × JsValue) :=
  [("e", get jwk "e"), ("kty", get jwk "kty"), ("n", get jwk "n")]

/-- What a `BrowserCrypto` call resolves with, when it resolves. -/
structure BrowserCrypto (Key : Type) where
  exportJwk : Key → JsonWebKey
  importJwk : CryptoKeyOptions → JsonWebKey → Bool → List String → Key
  sign : CryptoKeyOptions → Key → List UInt8 → List UInt8
  sha256Digest : String → List UInt8

structure Base64Encode where
  urlEncode : String → String
  urlEncodeArr : List UInt8 → String

/-- The collaborators and constants the key-store methods of `CryptoOps` read. -/
structure CryptoOps (Key : Type) where
  browserCrypto : BrowserCrypto Key
  b64Encode : Base64Encode
  cryptoKeyConfig : CryptoKeyConfig

variable {Key : Type}

/-- The value `hashString` resolves with: the base64url SHA-256 of the text. -/
def CryptoOps.hashString (ops : CryptoOps Key) (plainText : String) : String :=
  ops.b64Encode.urlEncodeArr (ops.browserCrypto.sha256Digest plainText)

def CryptoOps.keyOptions (ops : CryptoOps Key) (keyType : Option CryptoKeyTypes) : CryptoKeyOptions :=
  if keyType = some .StkJwk then ops.cryptoKeyConfig.refreshTokenBinding
  else ops.cryptoKeyConfig.accessTokenBinding

/-- The thumbprint `getPublicKeyThumbprint` stores a key pair under. -/
def CryptoOps.publicKeyThumbprint (ops : CryptoOps Key) (publicKey : Key) : String :=
  ops.hashString (getJwkString (thumbprintObject (ops.browserCrypto.exportJwk publicKey).toJs))

/-- Modelled from the spec (`BrowserStringUtils` is not among the sources): the UTF-8 bytes of a
string. -/
def stringToArrayBuffer (text : String) : List UInt8 := text.toUTF8.toList

/-- Modelled from the spec (`AsyncMemoryStorage` is not among the sources): one namespace of the
keyed store, from key to item. -/
def AsyncMemoryStorage (α : Type) := String → Option α

def AsyncMemoryStorage.empty {α : Type} : AsyncMemoryStorage α := fun _ => none

def AsyncMemoryStorage.setItem {α : Type} (storage : AsyncMemoryStorage α) (key : String) (value : α) :
    AsyncMemoryStorage α :=
  Function.update storage key (some value)

def AsyncMemoryStorage.removeItem {α : Type} (storage : AsyncMemoryStorage α) (key : String) :
    AsyncMemoryStorage α :=
  Function.update storage key none

@[simp] theorem AsyncMemoryStorage.empty_apply {α : Type} (key : String) :
    (AsyncMemoryStorage.empty : AsyncMemoryStorage α) key = none := rfl

@[simp] theorem AsyncMemoryStorage.setItem_apply {α : Type} (storage : AsyncMemoryStorage α)
    (key name : String) (value : α) :
    storage.setItem key value name = if name = key then some value else storage name :=
  Function.update_apply storage key (some value) name

@[simp] theorem AsyncMemoryStorage.removeItem_apply {α : Type} (storage : AsyncMemoryStorage α)
    (key name : String) : storage.removeItem key name = if name = key then none else storage name :=
  Function.update_apply storage key none name

structure CachedKeyPair (Key : Type) where
  publicKey : Key
  privateKey : Key
  requestMethod : Option String
  requestUri : Option String

structure CryptoKeyStore (Key : Type) where
  asymmetricKeys : AsyncMemoryStorage (CachedKeyPair Key)
  symmetricKeys : AsyncMemoryStorage Key

def CryptoKeyStore.empty : CryptoKeyStore Key := ⟨.empty, .empty⟩

inductive Partition
  | asymmetricKeys
  | symmetricKeys
  deriving DecidableEq, Repr

/-- `Object.keys(this.cache)`. -/
def CryptoKeyStore.dataStoreNames : List String := ["asymmetricKeys", "symmetricKeys"]

/-- The partition `this.cache[name]` is, if any. -/
def CryptoKeyStore.partitionNamed (name : String) : Option Partition :=
  if name = "asymmetricKeys" then some .asymmetricKeys
  else if name = "symmetricKeys" then some .symmetricKeys
  else none

/-- Modelled from the spec: `deleteDatabase` on a partition drops all of its entries when the wipe
succeeds, and leaves the other partition alone. -/
def CryptoKeyStore.deleteDatabase (cache : CryptoKeyStore Key) (partition : Partition) (deleted : Bool) :
    CryptoKeyStore Key :=
  if deleted then
    match partition with
    | .asymmetricKeys => { cache with asymmetricKeys := .empty }
    | .symmetricKeys => { cache with symmetricKeys := .empty }
  else cache

@[simp] theorem CryptoKeyStore.deleteDatabase_asymmetricKeys (cache : CryptoKeyStore Key)
    (partition : Partition) (deleted : Bool) :
    (cache.deleteDatabase partition deleted).asymmetricKeys =
      if deleted ∧ partition = .asymmetricKeys then .empty else cache.asymmetricKeys := by
  cases deleted <;> cases partition <;> rfl

@[simp] theorem CryptoKeyStore.deleteDatabase_symmetricKeys (cache : CryptoKeyStore Key)
    (partition : Partition) (deleted : Bool) :
    (cache.deleteDatabase partition deleted).symmetricKeys =
      if deleted ∧ partition = .symmetricKeys then .empty else cache.symmetricKeys := by
  cases deleted <;> cases partition <;> rfl

structure SignedHttpRequestParameters where
  resourceRequestMethod : Option String
  resourceRequestUri : Option String
  deriving DecidableEq, Repr

structure CryptoKeyPair (Key : Type) where
  publicKey : Option Key
  privateKey : Option Key

/-- A value thrown by a platform call: its message when it is an `Error`. -/
structure PlatformError where
  message : Option String
  deriving DecidableEq, Repr

inductive BrowserAuthError
  | keyGenerationFailed (errorMessage : Option String)
  | signingKeyNotFoundInStorage
  deriving DecidableEq, Repr

/-- What a `CryptoOps` call rejects with. -/
inductive CryptoOpsError
  | browserAuth (error : BrowserAuthError)
  | platform (error : PlatformError)
  /-- `JSON.parse` threw a `SyntaxError`. -/
  | syntaxError
  deriving DecidableEq, Repr

/-- The platform's answer to an awaited call: it rejects with `rejects`, or resolves, `generateKeyPair` with
`keyPair` and `deleteDatabase` with `deleted`; any other call resolves with its `BrowserCrypto` value or
its store access. -/
structure Answer (Key : Type) where
  rejects : Option PlatformError
  keyPair : Option (CryptoKeyPair Key)
  deleted : Bool

/-- Ghost record of one `generateKeyPair` that resolved with both halves, and the call that made it. -/
structure KeyGeneration (Key : Type) where
  request : SignedHttpRequestParameters
  keyType : Option CryptoKeyTypes
  publicKey : Key
  privateKey : Key

inductive ThumbprintStage (Key : Type)
  | generateKeyPair
  | exportPublicKey (publicKey privateKey : Key)
  | hashString (publicKey privateKey : Key) (publicJwkString : String)
  | exportPrivateKey (publicKey privateKey : Key) (publicJwkHash : String)
  | importJwk (publicKey : Key) (publicJwkHash : String) (privateKeyJwk : JsonWebKey)
  | setItem (publicKey : Key) (publicJwkHash : String) (unextractablePrivateKey : Key)
  | returned (result : Except CryptoOpsError String)

inductive RemoveStage
  | removeItem
  | containsKey
  | returned (result : Except CryptoOpsError Bool)

inductive ClearStage
  | deleteDatabase (partition : Partition)
  | returned (result : Except CryptoOpsError Bool)

inductive SignStage (Key : Type)
  | getItem
  | exportJwk (cachedKeyPair : CachedKeyPair Key)
  | sign (cachedKeyPair : CachedKeyPair Key) (tokenString : String)
  | returned (result : Except CryptoOpsError String)

inductive PublicKeyStage (Key : Type)
  | getItem
  | exportJwk (cachedKeyPair : CachedKeyPair Key)
  | returned (result : Except CryptoOpsError String)

/-- A `CryptoOps` call in flight: its arguments, and the await it stands at. -/
inductive Call (Key : Type)
  | getPublicKeyThumbprint (request : SignedHttpRequestParameters) (keyType : Option CryptoKeyTypes)
      (stage : ThumbprintStage Key)
  | removeTokenBindingKey (kid : String) (stage : RemoveStage)
  | clearKeystore (stage : ClearStage)
  | signJwt (payload : List (String × JsValue)) (kid : String) (stage : SignStage Key)
  | getAsymmetricPublicKey (keyThumbprint : String) (stage : PublicKeyStage Key)

/-- A call as the caller makes it. -/
inductive Operation
  | getPublicKeyThumbprint (request : SignedHttpRequestParameters) (keyType : Option CryptoKeyTypes)
  | removeTokenBindingKey (kid : String)
  | clearKeystore
  | signJwt (payload : List (String × JsValue)) (kid : String)
  | getAsymmetricPublicKey (keyThumbprint : String)

/-- A call up to its first await: `clearKeystore` picks its partition first, and returns `false`
when there is none. -/
def Operation.start : Operation → Call Key
  | .getPublicKeyThumbprint request keyType => .getPublicKeyThumbprint request keyType .generateKeyPair
  | .removeTokenBindingKey kid => .removeTokenBindingKey kid .removeItem
  | .clearKeystore =>
    .clearKeystore <| match CryptoKeyStore.dataStoreNames.head?.bind CryptoKeyStore.partitionNamed with
      | some partition => .deleteDatabase partition
      | none => .returned (.ok false)
  | .signJwt payload kid => .signJwt payload kid .getItem
  | .getAsymmetricPublicKey keyThumbprint => .getAsymmetricPublicKey keyThumbprint .getItem

/-- An awaited call that rejects throws its error out of the calling method. -/
def resolving {σ : Type} (answer : Answer Key) (thrown : CryptoOpsError → σ) (next : σ) : σ :=
  match answer.rejects with
  | some error => thrown (.platform error)
  | none => next

variable (ops : CryptoOps Key)

def ThumbprintStage.resume (request : SignedHttpRequestParameters) (keyType : Option CryptoKeyTypes)
    (cache : CryptoKeyStore Key) (answer : Answer Key) :
    ThumbprintStage Key → CryptoKeyStore Key × ThumbprintStage Key × Option (KeyGeneration Key)
  | .generateKeyPair =>
    match answer.rejects, answer.keyPair with
    | some error, _ => (cache, .returned (.error (.browserAuth (.keyGenerationFailed error.message))), none)
    | none, some ⟨some publicKey, some privateKey⟩ =>
      (cache, .exportPublicKey publicKey privateKey, some ⟨request, keyType, publicKey, privateKey⟩)
    | none, _ =>
      (cache, .returned (.error (.browserAuth (.keyGenerationFailed
        (some "Either the public or private key component is missing from the generated CryptoKeyPair")))),
        none)
  | .exportPublicKey publicKey privateKey =>
    (cache, resolving answer (.returned ∘ .error) (.hashString publicKey privateKey
      (getJwkString (thumbprintObject (ops.browserCrypto.exportJwk publicKey).toJs))), none)
  | .hashString publicKey privateKey publicJwkString =>
    (cache, resolving answer (.returned ∘ .error)
      (.exportPrivateKey publicKey privateKey (ops.hashString publicJwkString)), none)
  | .exportPrivateKey publicKey privateKey publicJwkHash =>
    (cache, resolving answer (.returned ∘ .error)
      (.importJwk publicKey publicJwkHash (ops.browserCrypto.exportJwk privateKey)), none)
  | .importJwk publicKey publicJwkHash privateKeyJwk =>
    (cache, resolving answer (.returned ∘ .error) (.setItem publicKey publicJwkHash
      (ops.browserCrypto.importJwk (ops.keyOptions keyType) privateKeyJwk false
        (ops.keyOptions keyType).privateKeyUsage)), none)
  | .setItem publicKey publicJwkHash unextractablePrivateKey =>
    match answer.rejects with
    | some error => (cache, .returned (.error (.platform error)), none)
    | none =>
      ({ cache with asymmetricKeys := (cache.asymmetricKeys.setItem publicJwkHash
          ⟨publicKey, unextractablePrivateKey, request.resourceRequestMethod, request.resourceRequestUri⟩) },
        .returned (.ok publicJwkHash), none)
  | .returned result => (cache, .returned result, none)

def RemoveStage.resume (kid : String) (cache : CryptoKeyStore Key) (answer : Answer Key) :
    RemoveStage → CryptoKeyStore Key × RemoveStage
  | .removeItem =>
    match answer.rejects with
    | some error => (cache, .returned (.error (.platform error)))
    | none => ({ cache with asymmetricKeys := cache.asymmetricKeys.removeItem kid }, .containsKey)
  | .containsKey => (cache, resolving answer (.returned ∘ .error)
      (.returned (.ok !(cache.asymmetricKeys kid).isSome)))
  | .returned result => (cache, .returned result)

def ClearStage.resume (cache : CryptoKeyStore Key) (answer : Answer Key) :
    ClearStage → CryptoKeyStore Key × ClearStage
  | .deleteDatabase partition =>
    match answer.rejects with
    | some error => (cache, .returned (.error (.platform error)))
    | none => (cache.deleteDatabase partition answer.deleted, .returned (.ok answer.deleted))
  | .returned result => (cache, .returned result)

/-- The compact token `signJwt` signs: base64url header and payload, the public key's JWK embedded
as the payload's `cnf`. `none` where `JSON.parse` would throw. -/
def CryptoOps.tokenString (payload : List (String × JsValue)) (publicKeyJwk : JsonWebKey) : Option String :=
  (parse (getJwkString publicKeyJwk.toJs)).map fun jwk =>
    ops.b64Encode.urlEncode (stringifyObject [("alg", optionalString publicKeyJwk.alg),
      ("type", .string CryptoKeyFormats.jwk)] none) ++ "." ++
    ops.b64Encode.urlEncode (stringifyObject (setMember payload "cnf" (.object [("jwk", jwk)])) none)

def CryptoOps.encodedSignature (privateKey : Key) (tokenString : String) : String :=
  ops.b64Encode.urlEncodeArr (ops.browserCrypto.sign ops.cryptoKeyConfig.accessTokenBinding privateKey
    (stringToArrayBuffer tokenString))

/-- The lookup `signJwt` and `getAsymmetricPublicKey` start with: the awaited
`this.cache.asymmetricKeys.getItem(kid)`, and the `!cachedKeyPair` check after it. -/
def getCachedKeyPair (cache : CryptoKeyStore Key) (kid : String) (answer : Answer Key) :
    Except CryptoOpsError (CachedKeyPair Key) :=
  resolving answer .error <|
    match cache.asymmetricKeys kid with
    | none => .error (.browserAuth .signingKeyNotFoundInStorage)
    | some cachedKeyPair => .ok cachedKeyPair

theorem getCachedKeyPair_ok {cache : CryptoKeyStore Key} {kid : String} {answer : Answer Key}
    {cachedKeyPair : CachedKeyPair Key} (got : getCachedKeyPair cache kid answer = .ok cachedKeyPair) :
    cache.asymmetricKeys kid = some cachedKeyPair := by
  unfold getCachedKeyPair resolving at got
  split at got
  · cases got
  · split at got <;> simp_all

theorem getCachedKeyPair_notFound (cache : CryptoKeyStore Key) (kid : String) (answer : Answer Key) :
    getCachedKeyPair cache kid answer = .error (.browserAuth .signingKeyNotFoundInStorage) ↔
      answer.rejects.isNone ∧ cache.asymmetricKeys kid = none := by
  unfold getCachedKeyPair resolving
  split
  · simp_all
  · split <;> simp_all

def SignStage.resume (payload : List (String × JsValue)) (kid : String) (cache : CryptoKeyStore Key)
    (answer : Answer Key) : SignStage Key → SignStage Key
  | .getItem =>
    match getCachedKeyPair cache kid answer with
    | .error error => .returned (.error error)
    | .ok cachedKeyPair => .exportJwk cachedKeyPair
  | .exportJwk cachedKeyPair => resolving answer (.returned ∘ .error) <|
    match ops.tokenString payload (ops.browserCrypto.exportJwk cachedKeyPair.publicKey) with
    | none => .returned (.error .syntaxError)
    | some tokenString => .sign cachedKeyPair tokenString
  | .sign cachedKeyPair tokenString => resolving answer (.returned ∘ .error) <|
    .returned (.ok (tokenString ++ "." ++ ops.encodedSignature cachedKeyPair.privateKey tokenString))
  | .returned result => .returned result

def PublicKeyStage.resume (keyThumbprint : String) (cache : CryptoKeyStore Key) (answer : Answer Key) :
    PublicKeyStage Key → PublicKeyStage Key
  | .getItem =>
    match getCachedKeyPair cache keyThumbprint answer with
    | .error error => .returned (.error error)
    | .ok cachedKeyPair => .exportJwk cachedKeyPair
  | .exportJwk cachedKeyPair => resolving answer (.returned ∘ .error) <|
    .returned (.ok (getJwkString (ops.browserCrypto.exportJwk cachedKeyPair.publicKey).toJs))
  | .returned result => .returned result

/-- Resume a call with the answer to its await: the store after it, the call at its next await, and
the key pair it generated, if it did. -/
def Call.resume (cache : CryptoKeyStore Key) (answer : Answer Key) :
    Call Key → CryptoKeyStore Key × Call Key × Option (KeyGeneration Key)
  | .getPublicKeyThumbprint request keyType stage =>
    let next := stage.resume ops request keyType cache answer
    (next.1, .getPublicKeyThumbprint request keyType next.2.1, next.2.2)
  | .removeTokenBindingKey kid stage =>
    let next := stage.resume kid cache answer
    (next.1, .removeTokenBindingKey kid next.2, none)
  | .clearKeystore stage =>
    let next := stage.resume cache answer
    (next.1, .clearKeystore next.2, none)
  | .signJwt payload kid stage => (cache, .signJwt payload kid (stage.resume ops payload kid cache answer), none)
  | .getAsymmetricPublicKey keyThumbprint stage =>
    (cache, .getAsymmetricPublicKey keyThumbprint (stage.resume ops keyThumbprint cache answer), none)

/-- A platform whose calls resolve with fixed values, to run the model on. -/
def fixedOps : CryptoOps Nat where
  browserCrypto :=
    ⟨fun _ => { alg := some "RS256", e := some "AQAB", kty := some "RSA", n := some "sXch" },
      fun _ _ _ _ => 7, fun _ _ _ => [], fun _ => []⟩
  b64Encode := ⟨fun _ => "h", fun _ => "k"⟩
  cryptoKeyConfig :=
    ⟨⟨"RSASSA-PKCS1-v1_5", ["sign", "verify"], ["sign"]⟩, ⟨"RSASSA-PKCS1-v1_5", ["sign", "verify"], ["sign"]⟩⟩

def resolved : Answer Nat := ⟨none, none, false⟩

end Msal.KeyStore.Operations
