import Mathlib.Data.List.Nodup

/-! JavaScript values and the text `JSON.stringify` gives them. `CryptoOps` writes JSON twice:
`BrowserCrypto.getJwkString` for key thumbprints, and `signJwt` for the token's header and payload.
Numbers are integers: the only number a token carries is a timestamp in seconds. The model prints
every integer's decimal digits, which is what JavaScript prints only for a safe integer, of magnitude
below 2^53; NaN, the infinities and fractions are not modelled. -/

namespace Msal.Json.Stringify

/-- A JavaScript value of the kinds JSON text holds, with `undefined` for an absent property. -/
inductive JsValue where
  | undefined
  | null
  | bool (b : Bool)
  | number (n : Int)
  | string (s : String)
  | array (items : List JsValue)
  | object (members : List (String × JsValue))
  deriving Repr, Inhabited

/-- `object[key]`: the property's value, `undefined` when there is none. -/
def get : List (String × JsValue) → String → JsValue
  | [], _ => .undefined
  | (name, value) :: rest, key => if name = key then value else get rest key

theorem get_eq_lookup (members : List (String × JsValue)) (key : String) :
    get members key = (members.lookup key).getD .undefined := by
  induction members with
  | nil => rfl
  | cons member members ih =>
    obtain ⟨name, value⟩ := member
    by_cases same : name = key
    · subst same
      simp [get]
    · have differ : (key == name) = false := by simpa using Ne.symm same
      simp [get, List.lookup_cons, same, differ, ih]

/-- `Object.keys(object)`. -/
def keys (members : List (String × JsValue)) : List String := members.map Prod.fst

theorem mem_keys_iff (members : List (String × JsValue)) (key : String) :
    key ∈ keys members ↔ (members.lookup key).isSome := by
  simp only [keys, List.mem_map, List.lookup_isSome_iff, beq_iff_eq]
  constructor <;> rintro ⟨member, listed, rfl⟩ <;> exact ⟨member, listed, rfl⟩

/-- The `PropertyList` that `SerializeJSONObject` walks: each key once, where it was first seen. -/
def propertyList (names : List String) : List String :=
  names.foldl (fun list name => if name ∈ list then list else list ++ [name]) []

/-- A hexadecimal digit as `QuoteJSONString` writes it, in lower case. -/
def hexDigit (n : Nat) : Char := if n < 10 then Char.ofNat (48 + n) else Char.ofNat (87 + n)

/-- `QuoteJSONString`'s text for one code point. -/
def escape (c : Char) : List Char :=
  match c with
  | '\x08' => ['\\', 'b']
  | '\t' => ['\\', 't']
  | '\n' => ['\\', 'n']
  | '\x0c' => ['\\', 'f']
  | '\r' => ['\\', 'r']
  | '"' => ['\\', '"']
  | '\\' => ['\\', '\\']
  | c =>
    if c.toNat < 0x20 then ['\\', 'u', '0', '0', hexDigit (c.toNat / 16), hexDigit (c.toNat % 16)]
    else [c]

/-- `QuoteJSONString(s)`. -/
def quote (s : String) : List Char := '"' :: s.toList.flatMap escape ++ ['"']

/-- A decimal digit. -/
def digitChar (d : Nat) : Char := Char.ofNat (48 + d)

theorem toNat_ofNat_of_lt (n : Nat) (small : n < 0xD800) : (Char.ofNat n).toNat = n := by
  rw [Char.ofNat, dif_pos (Or.inl small)]
  simp [Char.ofNatAux, Char.toNat, UInt32.toNat, UInt32.ofNat']

theorem digitChar_toNat (d : Nat) (digit : d < 10) : (digitChar d).toNat = 48 + d :=
  toNat_ofNat_of_lt _ (by omega)

/-- The decimal digits of `n`, most significant first; `fuel` bounds their count. -/
def decimalDigits : Nat → Nat → List Char
  | 0, _ => []
  | fuel + 1, n => (if n < 10 then [] else decimalDigits fuel (n / 10)) ++ [digitChar (n % 10)]

/-- The decimal digits of a natural number. -/
def decimal (n : Nat) : List Char := decimalDigits (n + 1) n

/-- `Number::toString` of a safe integer, of magnitude below 2^53: its decimal digits. Above that,
JavaScript rounds to 17 significant digits, and this model does not. -/
def numberToString : Int → List Char
  | .ofNat n => decimal n
  | .negSucc n => '-' :: decimal (n + 1)

/-- The `"key":value` texts of an object, in property-list order, leaving out the properties whose
value has no JSON text (`SerializeJSONObject`). -/
def objectParts (properties : List String) (texts : List (String × Option (List Char))) :
    List (List Char) :=
  properties.filterMap fun key => (texts.lookup key).join.map fun text => quote key ++ ':' :: text

mutual
/-- `SerializeJSONProperty` under an optional replacer key list; `none` for `undefined`, which has
no JSON text. -/
def serialize (replacer : Option (List String)) : JsValue → Option (List Char)
  | .undefined => none
  | .null => some ['n', 'u', 'l', 'l']
  | .bool true => some ['t', 'r', 'u', 'e']
  | .bool false => some ['f', 'a', 'l', 's', 'e']
  | .number n => some (numberToString n)
  | .string s => some (quote s)
  | .array items => some ('[' :: List.intercalate [','] (serializeItems replacer items) ++ [']'])
  | .object members =>
    some ('{' :: List.intercalate [',']
      (objectParts (propertyList (replacer.getD (keys members))) (serializeMembers replacer members))
      ++ ['}'])

/-- `SerializeJSONArray`'s element texts: an element with no JSON text is written `null`. -/
def serializeItems (replacer : Option (List String)) : List JsValue → List (List Char)
  | [] => []
  | item :: items => (serialize replacer item).getD ['n', 'u', 'l', 'l'] :: serializeItems replacer items

/-- Each member's value text, looked up by key in `objectParts`. -/
def serializeMembers (replacer : Option (List String)) :
    List (String × JsValue) → List (String × Option (List Char))
  | [] => []
  | (name, value) :: members => (name, serialize replacer value) :: serializeMembers replacer members
end

/-- `JSON.stringify(value, replacer)`, `none` where JavaScript returns `undefined`. -/
def stringify (value : JsValue) (replacer : Option (List String)) : Option String :=
  (serialize replacer value).map String.mk

/-- `JSON.stringify(object, replacer)`: for an object, always a string. -/
def stringifyObject (members : List (String × JsValue)) (replacer : Option (List String)) : String :=
  ⟨(serialize replacer (.object members)).getD []⟩

theorem stringify_object (members : List (String × JsValue)) (replacer : Option (List String)) :
    stringify (.object members) replacer = some (stringifyObject members replacer) := rfl

example : stringify (.object [("b", .number (-12)), ("a", .string "x\n"), ("c", .undefined)])
    (some ["a", "b", "c", "a"]) = some "\x7b\"a\":\"x\\n\",\"b\":-12\x7d" := by decide

theorem mem_propertyList (names : List String) (name : String) :
    name ∈ propertyList names ↔ name ∈ names := by
  suffices step : ∀ list : List String,
      name ∈ names.foldl (fun list name => if name ∈ list then list else list ++ [name]) list ↔
        name ∈ list ∨ name ∈ names by simpa using step []
  induction names with
  | nil => simp
  | cons head tail ih =>
    intro list
    rw [List.foldl_cons, ih]
    by_cases seen : head ∈ list
    · simp only [seen, ite_true, List.mem_cons]
      constructor
      · rintro (inList | inTail) <;> simp [*]
      · rintro (inList | rfl | inTail) <;> simp [*]
    · simp [seen, or_assoc]

theorem propertyList_nodup (names : List String) : (propertyList names).Nodup := by
  suffices step : ∀ list : List String, list.Nodup →
      (names.foldl (fun list name => if name ∈ list then list else list ++ [name]) list).Nodup from
    step [] List.nodup_nil
  induction names with
  | nil => simp
  | cons head tail ih =>
    intro list distinct
    apply ih
    dsimp only
    split
    · exact distinct
    · exact List.nodup_append.mpr ⟨distinct, List.nodup_singleton head, by simpa⟩

/-- A key list with no repeats is its own property list. -/
theorem propertyList_of_nodup {names : List String} (distinct : names.Nodup) : propertyList names = names := by
  suffices step : ∀ list : List String, (list ++ names).Nodup →
      names.foldl (fun list name => if name ∈ list then list else list ++ [name]) list = list ++ names from
    step [] distinct
  clear distinct
  induction names with
  | nil => simp
  | cons head tail ih =>
    intro list distinct
    have fresh : head ∉ list := fun seen => (List.nodup_append.mp distinct).2.2 seen (List.mem_cons_self _ _)
    rw [List.foldl_cons, if_neg fresh, ih _ (by simpa using distinct)]
    simp

theorem serialize_eq_none_iff (replacer : Option (List String)) (value : JsValue) :
    serialize replacer value = none ↔ value = .undefined := by
  cases value with
  | bool b => cases b <;> simp [serialize]
  | _ => simp [serialize]

theorem lookup_serializeMembers (replacer : Option (List String))
    (members : List (String × JsValue)) (key : String) :
    (serializeMembers replacer members).lookup key = (members.lookup key).map (serialize replacer) := by
  induction members with
  | nil => rfl
  | cons member members ih =>
    obtain ⟨name, value⟩ := member
    by_cases same : key = name
    · subst same
      simp [serializeMembers]
    · have differ : (key == name) = false := by simpa using same
      simp [serializeMembers, List.lookup_cons, differ, ih]

end Msal.Json.Stringify
