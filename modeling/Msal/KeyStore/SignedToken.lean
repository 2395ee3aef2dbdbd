import Msal.KeyStore.Interleaving
import Msal.Json.RoundTrip
import Mathlib.Data.List.Basic

/-! The token `signJwt` returns. It embeds the public key's JWK as `JSON.parse` reads back its sorted
JSON text, and the key was stored under the thumbprint of `{e, kty, n}` of the same JWK: the two
agree because those three members are strings, and a string reads back unchanged. What `JSON.parse`
reads back is the whole JWK, every member as written except the objects nested in `oth`, which the
sorted key list filters as well. -/

namespace Msal.KeyStore.SignedToken
open Msal.Json.Stringify Msal.Json.Parse Msal.Json.RoundTrip Msal.KeyStore.Operations Msal.KeyStore.Interleaving

theorem lookup_optionalMember (name key : String) (value : Option JsValue) :
    (optionalMember name value).lookup key = if key = name then value else none := by
  by_cases same : key = name
  · subst same
    cases value <;> simp [optionalMember]
  · have differ : (key == name) = false := by simpa using same
    cases value <;> simp [optionalMember, List.lookup_cons, differ, same]

theorem lookup_toJs_e (jwk : JsonWebKey) : jwk.toJs.lookup "e" = jwk.e.map .string := by
  simp [JsonWebKey.toJs, List.lookup_append, lookup_optionalMember]

theorem lookup_toJs_kty (jwk : JsonWebKey) : jwk.toJs.lookup "kty" = jwk.kty.map .string := by
  simp [JsonWebKey.toJs, List.lookup_append, lookup_optionalMember]

theorem lookup_toJs_n (jwk : JsonWebKey) : jwk.toJs.lookup "n" = jwk.n.map .string := by
  simp [JsonWebKey.toJs, List.lookup_append, lookup_optionalMember]

/-- A string member of a JWK reads back unchanged from its sorted JSON text. -/
theorem get_parsed_jwk (jwk : JsonWebKey) (key : String) (member : Option String)
    (looked : jwk.toJs.lookup key = member.map .string) :
    Json.Stringify.get (parsedObject (propertyList (sortedKeys jwk.toJs))
      (parsedMembers (some (sortedKeys jwk.toJs)) jwk.toJs)) key =
      Json.Stringify.get jwk.toJs key := by
  have readBack := get_parsedObject (some (sortedKeys jwk.toJs)) jwk.toJs key
  simp only [Option.getD_some] at readBack
  apply readBack (fun present => (mem_sortedKeys _ _).mpr present)
  intro value found
  rw [looked] at found
  obtain ⟨text, -, rfl⟩ := Option.map_eq_some'.mp found
  exact ⟨text, rfl⟩

/-- `JSON.parse` of a JWK's sorted JSON text has the JWK's own `{e, kty, n}`. -/
theorem thumbprint_of_parsed_jwk (jwk : JsonWebKey) :
    ∃ members, parse (getJwkString jwk.toJs) = some (.object members) ∧
      thumbprintObject members = thumbprintObject jwk.toJs := by
  refine ⟨_, parse_stringify _ _ _ (stringify_object _ _), ?_⟩
  simp only [parsedForm, Option.getD_some, thumbprintObject, get_parsed_jwk jwk "e" _ (lookup_toJs_e jwk),
    get_parsed_jwk jwk "kty" _ (lookup_toJs_kty jwk), get_parsed_jwk jwk "n" _ (lookup_toJs_n jwk)]

/-! ### The whole JWK that `signJwt` embeds -/

/-- A JWK member value that `JSON.parse` reads back as written, whatever the replacer: a string, a
boolean, or an array of strings. -/
def Plain : JsValue → Prop
  | .string _ | .bool _ => True
  | .array items => ∀ item ∈ items, ∃ text, item = .string text
  | _ => False

theorem plain_readsBack (replacer : Option (List String)) {value : JsValue} (plain : Plain value) :
    (serialize replacer value).isSome ∧ parsedForm replacer value = value := by
  cases value with
  | string _ => exact ⟨rfl, rfl⟩
  | bool b => cases b <;> exact ⟨rfl, rfl⟩
  | array items =>
    have strings : ∀ item ∈ items, (serialize replacer item).isSome ∧ parsedForm replacer item = item :=
      fun item listed => by obtain ⟨text, rfl⟩ := plain item listed; exact ⟨rfl, rfl⟩
    refine ⟨rfl, ?_⟩
    rw [parsedForm, parsedItems_of_serialized replacer items fun item listed => (strings item listed).1,
      List.map_congr_left fun item listed => (strings item listed).2, List.map_id']
  | _ => exact (plain : False).elim

theorem plain_strings (texts : List String) : Plain (.array (texts.map .string)) := fun item listed => by
  obtain ⟨text, -, rfl⟩ := List.mem_map.mp listed
  exact ⟨text, rfl⟩

theorem mem_optionalMember {name key : String} {member : Option JsValue} {value : JsValue}
    (listed : (key, value) ∈ optionalMember name member) : key = name ∧ member = some value := by
  cases member <;> simp_all [optionalMember]

/-- Every member of a JWK's object is plain, except `oth`, the array of the other primes' objects. -/
theorem toJs_member (jwk : JsonWebKey) {key : String} {value : JsValue} (listed : (key, value) ∈ jwk.toJs) :
    Plain value ∨
      key = "oth" ∧ ∃ others, jwk.oth = some others ∧ value = .array (others.map RsaOtherPrimesInfo.toJs) := by
  simp only [JsonWebKey.toJs, List.mem_append, or_assoc] at listed
  rcases listed with h | h | h | h | h | h | h | h | h | h | h | h | h | h | h | h | h | h
  all_goals
    obtain ⟨rfl, found⟩ := mem_optionalMember h
    obtain ⟨field, present, rfl⟩ := Option.map_eq_some'.mp found
    first
      | exact .inl trivial
      | exact .inl (plain_strings field)
      | exact .inr ⟨rfl, field, present, rfl⟩

theorem keys_toJs_sublist (jwk : JsonWebKey) :
    (keys jwk.toJs).Sublist ["alg", "crv", "d", "dp", "dq", "e", "ext", "k", "key_ops", "kty", "n", "oth", "p", "q",
      "qi", "use", "x", "y"] := by
  have single : ∀ name member, ((optionalMember name member).map Prod.fst).Sublist [name] := fun name member => by
    cases member <;> simp [optionalMember]
  show List.Sublist _ (["alg"] ++ ["crv"] ++ ["d"] ++ ["dp"] ++ ["dq"] ++ ["e"] ++ ["ext"] ++ ["k"] ++ ["key_ops"] ++
    ["kty"] ++ ["n"] ++ ["oth"] ++ ["p"] ++ ["q"] ++ ["qi"] ++ ["use"] ++ ["x"] ++ ["y"])
  simp only [keys, JsonWebKey.toJs, List.map_append]
  repeat' apply List.Sublist.append
  all_goals exact single _ _

theorem sortedKeys_nodup (jwk : JsonWebKey) : (sortedKeys jwk.toJs).Nodup :=
  (List.perm_insertionSort _ _).nodup_iff.mpr ((keys_toJs_sublist jwk).nodup (by decide))

/-- The member names of the other primes' objects, apart from `d`, are no member names of a JWK. -/
theorem sortedKeys_not_prime_field (jwk : JsonWebKey) {key : String} (listed : key ∈ sortedKeys jwk.toJs) :
    key ≠ "r" ∧ key ≠ "t" := by
  have named := (keys_toJs_sublist jwk).subset ((mem_sortedKeys _ _).mp listed)
  constructor <;> rintro rfl <;> exact absurd named (by decide)

theorem mem_sortedKeys_toJs (jwk : JsonWebKey) (key : String) :
    key ∈ sortedKeys jwk.toJs ↔ (jwk.toJs.lookup key).isSome :=
  (mem_sortedKeys _ _).trans (mem_keys_iff _ _)

theorem lookup_toJs_d (jwk : JsonWebKey) : jwk.toJs.lookup "d" = jwk.d.map .string := by
  simp only [JsonWebKey.toJs, List.lookup_append, lookup_optionalMember, String.reduceEq, if_true, if_false,
    Option.or_none, Option.none_or]

theorem lookup_toJs_oth (jwk : JsonWebKey) :
    jwk.toJs.lookup "oth" = jwk.oth.map fun others => .array (others.map RsaOtherPrimesInfo.toJs) := by
  simp only [JsonWebKey.toJs, List.lookup_append, lookup_optionalMember, String.reduceEq, if_true, if_false,
    Option.or_none, Option.none_or]

/-- A `filterMap` whose function keeps at most one key of a list without repeats. -/
theorem filterMap_only {α β : Type} [DecidableEq α] (f : α → Option β) (name : α) {names : List α}
    (distinct : names.Nodup) (others : ∀ other ∈ names, other ≠ name → f other = none) :
    names.filterMap f = if name ∈ names then (f name).toList else [] := by
  induction names with
  | nil => simp
  | cons head tail ih =>
    obtain ⟨fresh, distinct⟩ := List.nodup_cons.mp distinct
    have rest := ih distinct fun other listed => others other (List.mem_cons_of_mem _ listed)
    by_cases same : head = name
    · subst same
      cases found : f head with
      | none => simp [List.filterMap_cons_none found, rest, fresh]
      | some value => simp [List.filterMap_cons_some found, rest, fresh]
    · simp [List.filterMap_cons_none (others head (List.mem_cons_self _ _) same), rest, Ne.symm same]

/-- An object of `oth` read back through the JWK's own key list: `r` and `t` are not in that list, and
`d` only when the JWK has a `d` member of its own. -/
theorem parsedForm_otherPrimesInfo (jwk : JsonWebKey) (info : RsaOtherPrimesInfo) :
    parsedForm (some (sortedKeys jwk.toJs)) info.toJs =
      .object (if jwk.d.isSome then optionalMember "d" (info.d.map .string) else []) := by
  have distinct := sortedKeys_nodup jwk
  have ownD : "d" ∈ sortedKeys jwk.toJs ↔ jwk.d.isSome := by
    rw [mem_sortedKeys_toJs, lookup_toJs_d]
    simp
  simp only [RsaOtherPrimesInfo.toJs, parsedForm, Option.getD_some, propertyList_of_nodup distinct, parsedObject]
  rw [filterMap_only _ "d" distinct]
  · by_cases present : jwk.d.isSome
    · rw [if_pos (ownD.mpr present), if_pos present]
      simp only [lookup_parsedMembers, List.lookup_append, lookup_optionalMember]
      cases info.d <;> rfl
    · rw [if_neg (mt ownD.mp present), if_neg present]
  · intro key listed other
    obtain ⟨notR, notT⟩ := sortedKeys_not_prime_field jwk listed
    simp [lookup_parsedMembers, List.lookup_append, lookup_optionalMember, other, notR, notT]

/-- The JWK `signJwt` embeds as `cnf.jwk` has the JWK's members in sorted order, each as written, except
that the key list `getJwkString` passes to `JSON.stringify` also filters the objects in `oth`: each keeps
only `d`, and only when the JWK has a `d` of its own. -/
theorem parse_getJwkString (jwk : JsonWebKey) :
    ∃ members, parse (getJwkString jwk.toJs) = some (.object members) ∧
      members.map Prod.fst = sortedKeys jwk.toJs ∧
      (∀ key, key ≠ "oth" → members.lookup key = jwk.toJs.lookup key) ∧
      members.lookup "oth" = jwk.oth.map fun others => .array (others.map fun info =>
        .object (if jwk.d.isSome then optionalMember "d" (info.d.map .string) else [])) := by
  have distinct := sortedKeys_nodup jwk
  have serialized : ∀ key value, jwk.toJs.lookup key = some value →
      (serialize (some (sortedKeys jwk.toJs)) value).isSome := fun key value found => by
    rcases toJs_member jwk (mem_of_lookup found) with plain | ⟨-, others, -, rfl⟩
    · exact (plain_readsBack _ plain).1
    · rfl
  refine ⟨parsedObject (sortedKeys jwk.toJs) (parsedMembers (some (sortedKeys jwk.toJs)) jwk.toJs), ?_, ?_, ?_, ?_⟩
  · have parsed := parse_stringify _ _ _ (stringify_object jwk.toJs (some (sortedKeys jwk.toJs)))
    rwa [parsedForm, Option.getD_some, propertyList_of_nodup distinct] at parsed
  · refine keys_parsedObject _ _ fun key listed => ?_
    obtain ⟨value, found⟩ := Option.isSome_iff_exists.mp ((mem_sortedKeys_toJs jwk key).mp listed)
    simp [lookup_parsedMembers, found, serialized key value found]
  · intro key notPrimes
    rw [lookup_parsedObject _ _ distinct, lookup_parsedMembers]
    cases found : jwk.toJs.lookup key with
    | none => simp
    | some value =>
      have listed := (mem_sortedKeys_toJs jwk key).mpr (by simp [found])
      rcases toJs_member jwk (mem_of_lookup found) with plain | ⟨primes, -⟩
      · simp [listed, plain_readsBack _ plain]
      · exact absurd primes notPrimes
  · rw [lookup_parsedObject _ _ distinct, lookup_parsedMembers, lookup_toJs_oth]
    cases primes : jwk.oth with
    | none => simp
    | some others =>
      have listed := (mem_sortedKeys_toJs jwk "oth").mpr (by simp [lookup_toJs_oth, primes])
      have objects : ∀ item ∈ others.map RsaOtherPrimesInfo.toJs,
          (serialize (some (sortedKeys jwk.toJs)) item).isSome := fun item listed => by
        obtain ⟨info, -, rfl⟩ := List.mem_map.mp listed
        rfl
      have array : parsedForm (some (sortedKeys jwk.toJs)) (.array (others.map RsaOtherPrimesInfo.toJs)) =
          .array (others.map fun info => parsedForm (some (sortedKeys jwk.toJs)) info.toJs) := by
        rw [parsedForm, parsedItems_of_serialized _ _ objects, List.map_map]
        rfl
      simp [listed, serialize, array, parsedForm_otherPrimesInfo]

example : parse (getJwkString ({ kty := "RSA", oth := some [{ d := "7", r := "3" }] } : JsonWebKey).toJs) =
    some (.object [("kty", .string "RSA"), ("oth", .array [.object []])]) := rfl

/-- Three segments with no dot in them, joined by dots, split back into those three. -/
theorem splitOn_segments (header body signature : String) (headerClean : '.' ∉ header.toList)
    (bodyClean : '.' ∉ body.toList) (signatureClean : '.' ∉ signature.toList) :
    (header ++ "." ++ body ++ "." ++ signature).toList.splitOn '.' =
      [header.toList, body.toList, signature.toList] := by
  have clean : ∀ segment ∈ [header.toList, body.toList, signature.toList], '.' ∉ segment := by
    intro segment listed
    simp only [List.mem_cons, List.mem_singleton, List.not_mem_nil, or_false] at listed
    rcases listed with rfl | rfl | rfl <;> assumption
  have split := List.splitOn_intercalate [header.toList, body.toList, signature.toList] '.' clean (by simp)
  simpa [List.intercalate] using split

variable {Key : Type} (ops : CryptoOps Key)

/-- A token `signJwt` returns after any interleaving is `header.payload.signature`, no dot inside a segment,
signed over the first two with the private key stored under `kid`; its `cnf.jwk` is the stored public key's
JWK as `JSON.parse` reads it, with `{e, kty, n}` thumbprint `kid`. -/
theorem signJwt_compact_token (urlEncodeClean : ∀ text, '.' ∉ (ops.b64Encode.urlEncode text).toList)
    (urlEncodeArrClean : ∀ bytes, '.' ∉ (ops.b64Encode.urlEncodeArr bytes).toList)
    (events : List (Event Key)) (payload : List (String × JsValue)) (kid token : String)
    (returned : .signJwt payload kid (.returned (.ok token)) ∈ (run ops events).calls) :
    ∃ generation ∈ (run ops events).generated,
      let publicKeyJwk := ops.browserCrypto.exportJwk generation.publicKey
      kid = ops.hashString (getJwkString
        [("e", get publicKeyJwk.toJs "e"), ("kty", get publicKeyJwk.toJs "kty"), ("n", get publicKeyJwk.toJs "n")]) ∧
      ∃ jwk header body signature,
        parse (getJwkString publicKeyJwk.toJs) = some (.object jwk) ∧
        ops.hashString (getJwkString [("e", get jwk "e"), ("kty", get jwk "kty"), ("n", get jwk "n")]) = kid ∧
        header = ops.b64Encode.urlEncode (stringifyObject
          [("alg", (publicKeyJwk.alg.map .string).getD .undefined), ("type", .string "jwk")] none) ∧
        body = ops.b64Encode.urlEncode (stringifyObject (setMember payload "cnf" (.object [("jwk", .object jwk)])) none) ∧
        signature = ops.b64Encode.urlEncodeArr (ops.browserCrypto.sign ops.cryptoKeyConfig.accessTokenBinding
          (storedPair ops generation).privateKey (stringToArrayBuffer (header ++ "." ++ body))) ∧
        token = header ++ "." ++ body ++ "." ++ signature ∧
        token.toList.splitOn '.' = [header.toList, body.toList, signature.toList] := by
  obtain ⟨cachedKeyPair, tokenString, ⟨generation, generated, named, rfl⟩, built, rfl⟩ :=
    (valid_run ops events).calls _ returned
  obtain ⟨jwk, parsed, sameThumbprint⟩ := thumbprint_of_parsed_jwk (ops.browserCrypto.exportJwk generation.publicKey)
  simp only [CryptoOps.tokenString, storedPair, parsed, Option.map_some', Option.some.injEq] at built
  subst built
  refine ⟨generation, generated, named, jwk, _, _, _, parsed,
    (congrArg (fun object => ops.hashString (getJwkString object)) sameThumbprint).trans named.symm, rfl, rfl, rfl,
    rfl, splitOn_segments _ _ _ (urlEncodeClean _) (urlEncodeClean _) (urlEncodeArrClean _)⟩

theorem signJwt_compact_token_after_one_call :
    ∃ generation ∈ (run fixedOps generateThenSign).generated,
      let publicKeyJwk := fixedOps.browserCrypto.exportJwk generation.publicKey
      "k" = fixedOps.hashString (getJwkString
        [("e", get publicKeyJwk.toJs "e"), ("kty", get publicKeyJwk.toJs "kty"), ("n", get publicKeyJwk.toJs "n")]) ∧
      ∃ jwk header body signature,
        parse (getJwkString publicKeyJwk.toJs) = some (.object jwk) ∧
        fixedOps.hashString (getJwkString [("e", get jwk "e"), ("kty", get jwk "kty"), ("n", get jwk "n")]) = "k" ∧
        header = fixedOps.b64Encode.urlEncode (stringifyObject
          [("alg", (publicKeyJwk.alg.map .string).getD .undefined), ("type", .string "jwk")] none) ∧
        body = fixedOps.b64Encode.urlEncode (stringifyObject (setMember [] "cnf" (.object [("jwk", .object jwk)])) none) ∧
        signature = fixedOps.b64Encode.urlEncodeArr (fixedOps.browserCrypto.sign
          fixedOps.cryptoKeyConfig.accessTokenBinding (storedPair fixedOps generation).privateKey
          (stringToArrayBuffer (header ++ "." ++ body))) ∧
        "h.h.k" = header ++ "." ++ body ++ "." ++ signature ∧
        "h.h.k".toList.splitOn '.' = [header.toList, body.toList, signature.toList] :=
  signJwt_compact_token fixedOps (fun _ => show '.' ∉ "h".toList by decide)
    (fun _ => show '.' ∉ "k".toList by decide) generateThenSign [] "k" "h.h.k"
    (List.getElem?_mem (show (run fixedOps generateThenSign).calls[1]? = _ from rfl))

/-- The first two segments of the token `signJwt` signs read back: the header as `{alg, type}`, without
`alg` when the JWK has none; for a well-formed payload, the body as the payload with `cnf` set to the
parsed `{jwk}`. Both the parsed JWK and the body are well formed. -/
theorem tokenString_reads_back (payload : List (String × JsValue)) (publicKeyJwk : JsonWebKey)
    (wellFormed : WellFormed (.object payload)) :
    ∃ jwk headerText bodyText,
      parse (getJwkString publicKeyJwk.toJs) = some (.object jwk) ∧
      ops.tokenString payload publicKeyJwk =
        some (ops.b64Encode.urlEncode headerText ++ "." ++ ops.b64Encode.urlEncode bodyText) ∧
      parse headerText =
        some (.object (optionalMember "alg" (publicKeyJwk.alg.map .string) ++ [("type", .string CryptoKeyFormats.jwk)])) ∧
      parse bodyText = some (.object (setMember payload "cnf" (.object [("jwk", .object jwk)]))) ∧
      WellFormed (.object jwk) ∧ WellFormed (.object (setMember payload "cnf" (.object [("jwk", .object jwk)]))) := by
  obtain ⟨jwk, shape⟩ : ∃ jwk, parsedForm (some (sortedKeys publicKeyJwk.toJs)) (.object publicKeyJwk.toJs) =
      .object jwk := ⟨_, rfl⟩
  have parsed := parse_stringify _ _ _ (stringify_object publicKeyJwk.toJs (some (sortedKeys publicKeyJwk.toJs)))
  have jwkWellFormed := wellFormed_parsedForm (some (sortedKeys publicKeyJwk.toJs)) (.object publicKeyJwk.toJs) nofun
  rw [shape] at parsed jwkWellFormed
  have bodyWellFormed : WellFormed (.object (setMember payload "cnf" (.object [("jwk", .object jwk)]))) :=
    wellFormed_setMember "cnf" wellFormed ⟨List.nodup_singleton _, jwkWellFormed, trivial⟩
  refine ⟨jwk, stringifyObject [("alg", optionalString publicKeyJwk.alg), ("type", .string CryptoKeyFormats.jwk)] none,
    stringifyObject (setMember payload "cnf" (.object [("jwk", .object jwk)])) none, parsed, ?_, ?_,
    parse_stringifyObject bodyWellFormed, jwkWellFormed, bodyWellFormed⟩
  · simp only [CryptoOps.tokenString, getJwkString, parsed, Option.map_some']
  · rw [parse_stringify _ none _ (stringify_object _ none)]
    cases publicKeyJwk.alg <;> rfl

theorem tokenString_reads_back_nonce :
    WellFormed (.object [("nonce", .string "n")]) ∧
    ∃ jwk headerText bodyText,
      parse (getJwkString (fixedOps.browserCrypto.exportJwk 1).toJs) = some (.object jwk) ∧
      fixedOps.tokenString [("nonce", .string "n")] (fixedOps.browserCrypto.exportJwk 1) =
        some (fixedOps.b64Encode.urlEncode headerText ++ "." ++ fixedOps.b64Encode.urlEncode bodyText) ∧
      parse headerText = some (.object (optionalMember "alg" ((fixedOps.browserCrypto.exportJwk 1).alg.map .string) ++
        [("type", .string CryptoKeyFormats.jwk)])) ∧
      parse bodyText = some (.object (setMember [("nonce", .string "n")] "cnf" (.object [("jwk", .object jwk)]))) ∧
      WellFormed (.object jwk) ∧
      WellFormed (.object (setMember [("nonce", .string "n")] "cnf" (.object [("jwk", .object jwk)]))) :=
  ⟨⟨List.nodup_singleton _, trivial, trivial⟩,
    tokenString_reads_back fixedOps [("nonce", .string "n")] _ ⟨List.nodup_singleton _, trivial, trivial⟩⟩

/-- What `getAsymmetricPublicKey` returns is the JSON text of a stored public key's JWK, and the
`{e, kty, n}` thumbprint of that text, read back, is the thumbprint it was asked for. -/
theorem getAsymmetricPublicKey_thumbprint (events : List (Event Key)) (keyThumbprint text : String)
    (returned : .getAsymmetricPublicKey keyThumbprint (.returned (.ok text)) ∈ (run ops events).calls) :
    ∃ generation ∈ (run ops events).generated,
      let publicJwk := (ops.browserCrypto.exportJwk generation.publicKey).toJs
      keyThumbprint = ops.hashString
        (getJwkString [("e", get publicJwk "e"), ("kty", get publicJwk "kty"), ("n", get publicJwk "n")]) ∧
      text = getJwkString publicJwk ∧
      ∃ jwk, parse text = some (.object jwk) ∧
        ops.hashString (getJwkString [("e", get jwk "e"), ("kty", get jwk "kty"), ("n", get jwk "n")]) = keyThumbprint := by
  obtain ⟨cachedKeyPair, ⟨generation, generated, named, rfl⟩, rfl⟩ := (valid_run ops events).calls _ returned
  obtain ⟨jwk, parsed, sameThumbprint⟩ := thumbprint_of_parsed_jwk (ops.browserCrypto.exportJwk generation.publicKey)
  exact ⟨generation, generated, named, rfl, jwk, parsed,
    (congrArg (fun object => ops.hashString (getJwkString object)) sameThumbprint).trans named.symm⟩

/-- One `getPublicKeyThumbprint` run to its end, then one `getAsymmetricPublicKey` of its thumbprint. -/
def generateThenLookUp : List (Event Nat) :=
  [.start (.getPublicKeyThumbprint ⟨some "POST", some "https://a"⟩ none),
    .resume 0 ⟨none, some ⟨some 1, some 2⟩, false⟩, .resume 0 resolved, .resume 0 resolved,
    .resume 0 resolved, .resume 0 resolved, .resume 0 resolved,
    .start (.getAsymmetricPublicKey "k"), .resume 1 resolved, .resume 1 resolved]

theorem getAsymmetricPublicKey_thumbprint_after_one_call :
    ∃ generation ∈ (run fixedOps generateThenLookUp).generated,
      let publicJwk := (fixedOps.browserCrypto.exportJwk generation.publicKey).toJs
      "k" = fixedOps.hashString
        (getJwkString [("e", get publicJwk "e"), ("kty", get publicJwk "kty"), ("n", get publicJwk "n")]) ∧
      getJwkString (fixedOps.browserCrypto.exportJwk 1).toJs = getJwkString publicJwk ∧
      ∃ jwk, parse (getJwkString (fixedOps.browserCrypto.exportJwk 1).toJs) = some (.object jwk) ∧
        fixedOps.hashString (getJwkString [("e", get jwk "e"), ("kty", get jwk "kty"), ("n", get jwk "n")]) = "k" :=
  getAsymmetricPublicKey_thumbprint fixedOps generateThenLookUp "k" _
    (List.getElem?_mem (show (run fixedOps generateThenLookUp).calls[1]? = _ from rfl))

end Msal.KeyStore.SignedToken
