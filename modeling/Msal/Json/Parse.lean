import Msal.Json.Stringify

/-! `JSON.parse`, and that it reads back what `JSON.stringify` writes. `signJwt` embeds
`JSON.parse(getJwkString(jwk))` as the token's confirmation key, so the key a verifier hashes is the
parse of the text the thumbprint was taken from. The parser follows the JSON grammar with integer
numbers; a fraction, an exponent, or a `\u` escape of a surrogate half is refused, since the
model's numbers are integers and a Lean `Char` is a scalar value (`JSON.stringify` writes no such
escape for a Lean string). -/

namespace Msal.Json.Parse
open Msal.Json.Stringify

/-- JSON's insignificant whitespace. -/
def isWhitespace (c : Char) : Bool := c.toNat = 0x20 || c.toNat = 0x09 || c.toNat = 0x0A || c.toNat = 0x0D

def skipWs : List Char → List Char
  | [] => []
  | c :: rest => if isWhitespace c then skipWs rest else c :: rest

/-- JSON's `DIGIT`, `0` to `9`. -/
def isDigit (c : Char) : Bool := 48 ≤ c.toNat && c.toNat ≤ 57

/-- JSON's `HEXDIG`, either case. -/
def hexValue (c : Char) : Option Nat :=
  if 48 ≤ c.toNat ∧ c.toNat ≤ 57 then some (c.toNat - 48)
  else if 97 ≤ c.toNat ∧ c.toNat ≤ 102 then some (c.toNat - 87)
  else if 65 ≤ c.toNat ∧ c.toNat ≤ 70 then some (c.toNat - 55)
  else none

def hexQuad (a b c d : Char) : Option Nat :=
  match hexValue a, hexValue b, hexValue c, hexValue d with
  | some a, some b, some c, some d => some (4096 * a + 256 * b + 16 * c + d)
  | _, _, _, _ => none

/-- The one-character escapes of JSON's `escape` rule. -/
def unescape : Char → Option Char
  | '"' => some '"'
  | '\\' => some '\\'
  | '/' => some '/'
  | 'b' => some '\x08'
  | 'f' => some '\x0c'
  | 'n' => some '\n'
  | 'r' => some '\r'
  | 't' => some '\t'
  | _ => none

/-- A string's characters up to its closing quote, and the text after that quote. -/
def parseChars : List Char → Option (List Char × List Char)
  | [] => none
  | c :: rest =>
    if c = '"' then some ([], rest)
    else if c = '\\' then
      match rest with
      | [] => none
      | e :: rest =>
        if e = 'u' then
          match rest with
          | a :: b :: c :: d :: rest =>
            match hexQuad a b c d with
            | none => none
            | some code =>
              if code < 0xD800 ∨ 0xDFFF < code then
                (parseChars rest).map fun parsed => (Char.ofNat code :: parsed.1, parsed.2)
              else none
          | _ => none
        else (unescape e).bind fun ch => (parseChars rest).map fun parsed => (ch :: parsed.1, parsed.2)
    else if c.toNat < 0x20 then none
    else (parseChars rest).map fun parsed => (c :: parsed.1, parsed.2)

def digitsValue (digits : List Char) : Nat :=
  digits.foldl (fun value d => 10 * value + (d.toNat - 48)) 0

/-- JSON's `int` rule: `0`, or a nonzero digit and the digits after it. -/
def parseNatural : List Char → Option (Nat × List Char)
  | [] => none
  | c :: rest =>
    if c = '0' then some (0, rest)
    else if isDigit c then
      some (digitsValue (c :: rest.takeWhile isDigit), rest.dropWhile isDigit)
    else none

def parseNumber : List Char → Option (Int × List Char)
  | [] => none
  | c :: rest =>
    if c = '-' then (parseNatural rest).map fun parsed => (-(parsed.1 : Int), parsed.2)
    else (parseNatural (c :: rest)).map fun parsed => ((parsed.1 : Int), parsed.2)

def parseLiteral : List Char → Option (JsValue × List Char)
  | 'n' :: 'u' :: 'l' :: 'l' :: rest => some (.null, rest)
  | 't' :: 'r' :: 'u' :: 'e' :: rest => some (.bool true, rest)
  | 'f' :: 'a' :: 'l' :: 's' :: 'e' :: rest => some (.bool false, rest)
  | _ => none

/-- `CreateDataProperty` as `JSON.parse` uses it: a repeated key keeps its place, with the new value. -/
def setMember : List (String × JsValue) → String → JsValue → List (String × JsValue)
  | [], key, value => [(key, value)]
  | (name, old) :: rest, key, value =>
    if name = key then (key, value) :: rest else (name, old) :: setMember rest key value

mutual
/-- One JSON value and the text after it; `fuel` bounds the nesting and the list lengths. -/
def parseValue : Nat → List Char → Option (JsValue × List Char)
  | 0, _ => none
  | fuel + 1, text =>
    match skipWs text with
    | [] => none
    | c :: rest =>
      if c = '"' then (parseChars rest).map fun parsed => (.string ⟨parsed.1⟩, parsed.2)
      else if c = '[' then
        if (skipWs rest).head? = some ']' then some (.array [], (skipWs rest).tail)
        else (parseItems fuel rest).map fun parsed => (.array parsed.1, parsed.2)
      else if c = '{' then
        if (skipWs rest).head? = some '}' then some (.object [], (skipWs rest).tail)
        else (parseMembers fuel [] rest).map fun parsed => (.object parsed.1, parsed.2)
      else if c = '-' ∨ isDigit c then
        (parseNumber (c :: rest)).map fun parsed => (.number parsed.1, parsed.2)
      else parseLiteral (c :: rest)

/-- The elements of an array up to its closing bracket. -/
def parseItems : Nat → List Char → Option (List JsValue × List Char)
  | 0, _ => none
  | fuel + 1, text =>
    match parseValue fuel text with
    | none => none
    | some (item, after) =>
      match skipWs after with
      | ',' :: rest => (parseItems fuel rest).map fun parsed => (item :: parsed.1, parsed.2)
      | ']' :: rest => some ([item], rest)
      | _ => none

/-- The members of an object up to its closing brace, added to `members` in order. -/
def parseMembers : Nat → List (String × JsValue) → List Char →
    Option (List (String × JsValue) × List Char)
  | 0, _, _ => none
  | fuel + 1, members, text =>
    match skipWs text with
    | '"' :: rest =>
      match parseChars rest with
      | none => none
      | some (name, afterName) =>
        match skipWs afterName with
        | ':' :: rest =>
          match parseValue fuel rest with
          | none => none
          | some (value, after) =>
            match skipWs after with
            | ',' :: rest => parseMembers fuel (setMember members ⟨name⟩ value) rest
            | '}' :: rest => some (setMember members ⟨name⟩ value, rest)
            | _ => none
        | _ => none
    | _ => none
end

/-- `JSON.parse(text)`, `none` where JavaScript throws a `SyntaxError`. -/
def parse (text : String) : Option JsValue :=
  match parseValue (text.length + 1) text.toList with
  | some (value, rest) => if skipWs rest = [] then some value else none
  | none => none

example : (parse " \x7b \"a\" : [1, -20, true, null], \"b\" : \"\\u0041\\n\", \"a\" : \x7b\x7d \x7d ").bind
    (fun value => stringify value none) = some "\x7b\"a\":\x7b\x7d,\"b\":\"A\\n\"\x7d" := by decide

/-- An object's members as `JSON.parse` builds them from `SerializeJSONObject`'s text: the
property-list keys whose value has JSON text, in property-list order. -/
def parsedObject (properties : List String) (values : List (String × Option JsValue)) :
    List (String × JsValue) :=
  properties.filterMap fun key => (values.lookup key).join.map fun value => (key, value)

mutual
/-- What `JSON.parse` returns for the text `JSON.stringify(value, replacer)` writes: an array
element with no JSON text comes back `null`, and an object keeps the property-list members that
have JSON text. -/
def parsedForm (replacer : Option (List String)) : JsValue → JsValue
  | .array items => .array (parsedItems replacer items)
  | .object members =>
    .object (parsedObject (propertyList (replacer.getD (keys members))) (parsedMembers replacer members))
  | value => value

def parsedItems (replacer : Option (List String)) : List JsValue → List JsValue
  | [] => []
  | item :: items =>
    (if (serialize replacer item).isSome then parsedForm replacer item else .null) ::
      parsedItems replacer items

def parsedMembers (replacer : Option (List String)) :
    List (String × JsValue) → List (String × Option JsValue)
  | [] => []
  | (name, value) :: members =>
    (name, if (serialize replacer value).isSome then some (parsedForm replacer value) else none) ::
      parsedMembers replacer members
end

/-! ### Reading back what `stringify` writes -/

/-- No digit follows: the digits of a number's text end where the text does. -/
def Delimited : List Char → Prop
  | [] => True
  | c :: _ => isDigit c = false

theorem delimited_cons (c : Char) (rest : List Char) (notDigit : isDigit c = false) :
    Delimited (c :: rest) :=
  notDigit

theorem skipWs_cons (c : Char) (rest : List Char) (solid : isWhitespace c = false) :
    skipWs (c :: rest) = c :: rest := by
  simp [skipWs, solid]

theorem hexValue_hexDigit (d : Nat) (digit : d < 16) : hexValue (hexDigit d) = some d := by
  unfold hexDigit
  split
  · rw [hexValue, toNat_ofNat_of_lt _ (by omega), if_pos (by omega)]
    exact congrArg some (by omega)
  · rw [hexValue, toNat_ofNat_of_lt _ (by omega), if_neg (by omega), if_pos (by omega)]
    exact congrArg some (by omega)

theorem hexQuad_control (n : Nat) (control : n < 0x20) :
    hexQuad '0' '0' (hexDigit (n / 16)) (hexDigit (n % 16)) = some n := by
  have zero : hexValue '0' = some 0 := by decide
  simp only [hexQuad, zero, hexValue_hexDigit _ (show n / 16 < 16 by omega),
    hexValue_hexDigit _ (show n % 16 < 16 by omega)]
  congr 1
  omega

theorem parseChars_closing (rest : List Char) : parseChars ('"' :: rest) = some ([], rest) := by
  rw [parseChars.eq_def]
  simp only [if_pos]
theorem parseChars_plain (c : Char) (rest : List Char) (notQuote : c ≠ '"') (notBackslash : c ≠ '\\')
    (printable : ¬c.toNat < 0x20) :
    parseChars (c :: rest) = (parseChars rest).map fun parsed => (c :: parsed.1, parsed.2) := by
  rw [parseChars.eq_def]
  simp only [if_neg notQuote, if_neg notBackslash, if_neg printable]
theorem parseChars_short (e : Char) (rest : List Char) (notU : e ≠ 'u') :
    parseChars ('\\' :: e :: rest) =
      (unescape e).bind fun ch => (parseChars rest).map fun parsed => (ch :: parsed.1, parsed.2) := by
  rw [parseChars.eq_def]
  simp only [if_neg (show '\\' ≠ '"' by decide), if_pos, if_neg notU]
theorem parseChars_unicode (a b c d : Char) (rest : List Char) (code : Nat)
    (decoded : hexQuad a b c d = some code) (scalar : code < 0xD800) :
    parseChars ('\\' :: 'u' :: a :: b :: c :: d :: rest) =
      (parseChars rest).map fun parsed => (Char.ofNat code :: parsed.1, parsed.2) := by
  rw [parseChars.eq_def]
  simp only [if_neg (show '\\' ≠ '"' by decide), if_pos, decoded, if_pos (Or.inl scalar)]

theorem parseChars_escape (c : Char) (more : List Char) :
    parseChars (escape c ++ more) = (parseChars more).map fun parsed => (c :: parsed.1, parsed.2) := by
  unfold escape
  split
  all_goals try simp [parseChars_short, unescape]
  next notBackspace notTab notNewline notFormFeed notReturn notQuote notBackslash =>
    by_cases control : c.toNat < 0x20
    · simp [control, parseChars_unicode _ _ _ _ _ _ (hexQuad_control _ control) (by omega)]
    · simp [control, parseChars_plain _ _ notQuote notBackslash control]

theorem parseChars_quote (chars : List Char) (rest : List Char) :
    parseChars (chars.flatMap escape ++ '"' :: rest) = some (chars, rest) := by
  induction chars with
  | nil => exact parseChars_closing rest
  | cons c chars ih => simp [List.append_assoc, parseChars_escape, ih]

theorem intercalate_singleton (sep text : List Char) : List.intercalate sep [text] = text := by
  simp [List.intercalate]

theorem intercalate_cons_cons (sep first second : List Char) (texts : List (List Char)) :
    List.intercalate sep (first :: second :: texts) =
      first ++ sep ++ List.intercalate sep (second :: texts) := by
  simp [List.intercalate, List.intersperse]

theorem isDigit_digitChar (d : Nat) (digit : d < 10) : isDigit (digitChar d) = true := by
  simp only [isDigit, digitChar_toNat d digit, Bool.and_eq_true, decide_eq_true_eq]
  omega

theorem isDigit_of_mem_decimalDigits (fuel n : Nat) : ∀ c ∈ decimalDigits fuel n, isDigit c = true := by
  induction fuel generalizing n with
  | zero => simp [decimalDigits]
  | succ fuel ih =>
    intro c member
    simp only [decimalDigits, List.mem_append, List.mem_singleton] at member
    rcases member with earlier | rfl
    · split at earlier
      · simp at earlier
      · exact ih _ c earlier
    · exact isDigit_digitChar _ (Nat.mod_lt _ (by omega))

theorem digitsValue_snoc (digits : List Char) (c : Char) :
    digitsValue (digits ++ [c]) = 10 * digitsValue digits + (c.toNat - 48) := by
  simp [digitsValue, List.foldl_append]

theorem digitsValue_decimalDigits (fuel n : Nat) (fits : n < Nat.pow 10 fuel) :
    digitsValue (decimalDigits fuel n) = n := by
  induction fuel generalizing n with
  | zero => simp_all [decimalDigits, digitsValue]
  | succ fuel ih =>
    have lastDigit := digitChar_toNat (n % 10) (Nat.mod_lt _ (by omega))
    rw [decimalDigits, digitsValue_snoc, lastDigit]
    split
    · simp [digitsValue]
      omega
    · have smaller : n < Nat.pow 10 fuel * 10 := fits
      rw [ih (n / 10) (by omega)]
      omega

/-- The leading digit is nonzero unless the number is zero, as JSON's `int` rule asks. -/
theorem decimalDigits_leading (fuel n : Nat) (fits : n < Nat.pow 10 (fuel + 1)) :
    ∃ d rest, decimalDigits (fuel + 1) n = digitChar d :: rest ∧ d < 10 ∧ (d = 0 → n = 0) := by
  induction fuel generalizing n with
  | zero =>
    have small : n < 10 := fits
    exact ⟨n % 10, [], by simp [decimalDigits, small], Nat.mod_lt _ (by omega), by omega⟩
  | succ fuel ih =>
    rw [decimalDigits]
    split
    · exact ⟨n % 10, [], by simp, Nat.mod_lt _ (by omega), by omega⟩
    · have smaller : n < Nat.pow 10 (fuel + 1) * 10 := fits
      obtain ⟨d, rest, leading, digit, nonzero⟩ := ih (n / 10) (by omega)
      exact ⟨d, rest ++ [digitChar (n % 10)], by simp [leading], digit, by omega⟩

theorem span_digits (digits rest : List Char) (allDigits : ∀ c ∈ digits, isDigit c = true)
    (delimited : Delimited rest) :
    (digits ++ rest).takeWhile isDigit = digits ∧ (digits ++ rest).dropWhile isDigit = rest := by
  rw [List.takeWhile_append_of_pos allDigits, List.dropWhile_append_of_pos allDigits]
  cases rest with
  | nil => simp
  | cons c rest => simp [show isDigit c = false from delimited]

theorem parseNatural_decimal (n : Nat) (rest : List Char) (delimited : Delimited rest) :
    parseNatural (decimal n ++ rest) = some (n, rest) := by
  by_cases zero : n = 0
  · subst zero
    have zeroText : decimal 0 = ['0'] := by decide
    simp [zeroText, parseNatural]
  have fits : n < Nat.pow 10 (n + 1) := Nat.lt_of_succ_lt (Nat.lt_pow_self (by decide) (n + 1))
  obtain ⟨d, digits, leading, digit, nonzero⟩ := decimalDigits_leading n n fits
  have allDigits := isDigit_of_mem_decimalDigits (n + 1) n
  have value := digitsValue_decimalDigits (n + 1) n fits
  rw [leading] at allDigits value
  obtain ⟨taken, dropped⟩ := span_digits digits rest (fun c member => allDigits c (by simp [member]))
    delimited
  have notZero : digitChar d ≠ '0' := fun same => zero (nonzero (by
    have := congrArg Char.toNat same
    rw [digitChar_toNat d digit] at this
    simpa using this))
  rw [decimal, leading, List.cons_append, parseNatural]
  simp [notZero, isDigit_digitChar d digit, taken, dropped, value]

theorem parseNumber_numberToString (n : Int) (rest : List Char) (delimited : Delimited rest) :
    parseNumber (numberToString n ++ rest) = some (n, rest) := by
  cases n with
  | ofNat n =>
    obtain ⟨d, digits, leading, digit, -⟩ :=
      decimalDigits_leading n n (Nat.lt_of_succ_lt (Nat.lt_pow_self (by decide) (n + 1)))
    have notMinus : digitChar d ≠ '-' := fun same => by
      have := congrArg Char.toNat same
      rw [digitChar_toNat d digit, show '-'.toNat = 45 from rfl] at this
      omega
    have natural := parseNatural_decimal n rest delimited
    rw [decimal, leading, List.cons_append] at natural
    simp [numberToString, decimal, leading, parseNumber, notMinus, natural]
  | negSucc n => simp [numberToString, parseNumber, parseNatural_decimal _ _ delimited, Int.negSucc_eq]

theorem parseValue_string (fuel : Nat) (rest : List Char) :
    parseValue (fuel + 1) ('"' :: rest) = (parseChars rest).map fun parsed => (.string ⟨parsed.1⟩, parsed.2) := by
  rw [parseValue]
  simp [skipWs, isWhitespace]

theorem parseValue_array (fuel : Nat) (rest : List Char) :
    parseValue (fuel + 1) ('[' :: rest) =
      if (skipWs rest).head? = some ']' then some (.array [], (skipWs rest).tail)
      else (parseItems fuel rest).map fun parsed => (.array parsed.1, parsed.2) := by
  rw [parseValue]
  simp [skipWs, isWhitespace]

theorem parseValue_object (fuel : Nat) (rest : List Char) :
    parseValue (fuel + 1) ('{' :: rest) =
      if (skipWs rest).head? = some '}' then some (.object [], (skipWs rest).tail)
      else (parseMembers fuel [] rest).map fun parsed => (.object parsed.1, parsed.2) := by
  rw [parseValue]
  simp [skipWs, isWhitespace]

theorem parseValue_digit (fuel : Nat) (c : Char) (rest : List Char) (digit : isDigit c = true) :
    parseValue (fuel + 1) (c :: rest) = (parseNumber (c :: rest)).map fun parsed => (.number parsed.1, parsed.2) := by
  have range : 48 ≤ c.toNat ∧ c.toNat ≤ 57 := by simpa [isDigit] using digit
  have differs : ∀ d : Char, d.toNat < 48 ∨ 57 < d.toNat → c ≠ d := fun d outside same => by
    subst same
    omega
  rw [parseValue]
  simp [skipWs_cons c rest (by simp [isWhitespace]; omega), differs '"' (by decide), differs '[' (by decide),
    differs '{' (by decide), digit]

/-- A value starting with a literal's first letter is read by `parseLiteral`. -/
theorem parseValue_literal (fuel : Nat) (c : Char) (rest : List Char) (letter : c = 'n' ∨ c = 't' ∨ c = 'f') :
    parseValue (fuel + 1) (c :: rest) = parseLiteral (c :: rest) := by
  rcases letter with rfl | rfl | rfl <;> rfl

theorem parseValue_numberToString (fuel : Nat) (n : Int) (rest : List Char) (delimited : Delimited rest) :
    parseValue (fuel + 1) (numberToString n ++ rest) = some (.number n, rest) := by
  have number := parseNumber_numberToString n rest delimited
  cases n with
  | ofNat n =>
    obtain ⟨d, digits, leading, digit, -⟩ :=
      decimalDigits_leading n n (Nat.lt_of_succ_lt (Nat.lt_pow_self (by decide) (n + 1)))
    simp only [numberToString, decimal, leading, List.cons_append] at number ⊢
    rw [parseValue_digit fuel _ _ (isDigit_digitChar d digit), number]
    rfl
  | negSucc n =>
    simp only [numberToString, List.cons_append] at number ⊢
    rw [parseValue]
    simp [skipWs, isWhitespace, number]

/-- `value`'s JSON text, followed by text a number cannot run on into, parses back to
`parsedForm replacer value`, from any fuel above the text's length. -/
def ReadsBack (replacer : Option (List String)) (value : JsValue) : Prop :=
  ∀ text, serialize replacer value = some text → ∀ fuel rest, text.length < fuel → Delimited rest →
    parseValue fuel (text ++ rest) = some (parsedForm replacer value, rest)

theorem readsBack_null (replacer : Option (List String)) : ReadsBack replacer .null := by
  rintro text serialized (_ | fuel) rest fits -
  · omega
  · cases serialized
    exact (parseValue_literal fuel 'n' _ (.inl rfl)).trans rfl

theorem readsBack_bool (replacer : Option (List String)) (b : Bool) : ReadsBack replacer (.bool b) := by
  rintro text serialized (_ | fuel) rest fits -
  · omega
  · cases b <;> cases serialized
    · exact (parseValue_literal fuel 'f' _ (.inr (.inr rfl))).trans rfl
    · exact (parseValue_literal fuel 't' _ (.inr (.inl rfl))).trans rfl

theorem readsBack_number (replacer : Option (List String)) (n : Int) : ReadsBack replacer (.number n) := by
  rintro text serialized (_ | fuel) rest fits delimited
  · omega
  · cases serialized
    rw [parseValue_numberToString fuel n rest delimited]
    rfl

theorem readsBack_string (replacer : Option (List String)) (s : String) : ReadsBack replacer (.string s) := by
  rintro text serialized (_ | fuel) rest fits -
  · omega
  · cases serialized
    simp only [quote, List.cons_append, List.append_assoc, List.singleton_append, parseValue_string,
      parseChars_quote]
    rfl

/-- The first character of a value's text: not whitespace, and not a closing bracket or brace. -/
theorem serialize_head (replacer : Option (List String)) (value : JsValue) (text : List Char)
    (serialized : serialize replacer value = some text) :
    ∃ c more, text = c :: more ∧ isWhitespace c = false ∧ c ≠ ']' ∧ c ≠ '}' := by
  cases value with
  | undefined => simp [serialize] at serialized
  | number n =>
    cases serialized
    cases n with
    | ofNat n =>
      obtain ⟨d, digits, leading, digit, -⟩ :=
        decimalDigits_leading n n (Nat.lt_of_succ_lt (Nat.lt_pow_self (by decide) (n + 1)))
      have code := digitChar_toNat d digit
      refine ⟨digitChar d, digits, by simp [numberToString, decimal, leading], ?_, ?_, ?_⟩
      · simp [isWhitespace, code]
        omega
      · intro same
        have := congrArg Char.toNat same
        rw [code, show ']'.toNat = 93 from rfl] at this
        omega
      · intro same
        have := congrArg Char.toNat same
        rw [code, show '}'.toNat = 125 from rfl] at this
        omega
    | negSucc n => exact ⟨'-', _, rfl, by decide, by decide, by decide⟩
  | bool b => cases b <;> cases serialized <;> exact ⟨_, _, rfl, by decide, by decide, by decide⟩
  | _ => cases serialized; exact ⟨_, _, rfl, by decide, by decide, by decide⟩

/-- An array element's text, `null` standing in for `undefined`, parses back to the element's
`parsedItems` entry. -/
theorem readsBack_item (replacer : Option (List String)) (item : JsValue) (readsBack : ReadsBack replacer item)
    (fuel : Nat) (rest : List Char) (fits : ((serialize replacer item).getD ['n', 'u', 'l', 'l']).length < fuel)
    (delimited : Delimited rest) :
    parseValue fuel ((serialize replacer item).getD ['n', 'u', 'l', 'l'] ++ rest) =
      some (if (serialize replacer item).isSome then parsedForm replacer item else .null, rest) := by
  cases serialized : serialize replacer item with
  | none =>
    simp only [serialized, Option.getD_none] at fits ⊢
    exact readsBack_null replacer _ rfl fuel rest fits delimited
  | some text =>
    simp only [serialized, Option.getD_some] at fits ⊢
    exact readsBack text serialized fuel rest fits delimited

theorem parseItems_serializeItems (replacer : Option (List String)) (items : List JsValue)
    (each : ∀ item ∈ items, ReadsBack replacer item) (nonempty : items ≠ []) (fuel : Nat) (rest : List Char)
    (fits : (List.intercalate [','] (serializeItems replacer items)).length + 1 < fuel) :
    parseItems fuel (List.intercalate [','] (serializeItems replacer items) ++ ']' :: rest) =
      some (parsedItems replacer items, rest) := by
  induction items generalizing fuel with
  | nil => contradiction
  | cons item items ih =>
    obtain _ | fuel := fuel
    · omega
    have first := readsBack_item replacer item (each item (List.mem_cons_self _ _)) fuel
    cases items with
    | nil =>
      simp only [serializeItems, intercalate_singleton] at fits ⊢
      rw [parseItems, first _ (by omega) (delimited_cons ']' rest (by decide))]
      simp [skipWs, isWhitespace, parsedItems]
    | cons second items =>
      simp only [serializeItems, intercalate_cons_cons, List.length_append, List.length_singleton] at fits ⊢
      rw [parseItems, List.append_assoc, List.append_assoc, List.singleton_append,
        first _ (by omega) (delimited_cons ',' _ (by decide))]
      have later := ih (fun item member => each item (List.mem_cons_of_mem _ member)) (by simp) fuel
        (by simp only [serializeItems]; omega)
      simp only [serializeItems] at later
      simp [skipWs, isWhitespace, later, parsedItems]

theorem readsBack_array (replacer : Option (List String)) (items : List JsValue)
    (each : ∀ item ∈ items, ReadsBack replacer item) : ReadsBack replacer (.array items) := by
  rintro text serialized (_ | fuel) rest fits -
  · omega
  cases serialized
  simp only [List.cons_append, List.append_assoc, List.singleton_append, List.nil_append,
    List.length_cons, List.length_append, List.length_singleton] at fits ⊢
  rw [parseValue_array]
  cases items with
  | nil => simp [serializeItems, skipWs, isWhitespace, parsedForm, parsedItems]
  | cons item more =>
    obtain ⟨c, tail, starts, solid, notBracket⟩ : ∃ c tail,
        List.intercalate [','] (serializeItems replacer (item :: more)) = c :: tail ∧
          isWhitespace c = false ∧ c ≠ ']' := by
      cases serialized : serialize replacer item with
      | none =>
        cases more <;> simp [serializeItems, serialized, intercalate_singleton, intercalate_cons_cons,
          isWhitespace]
      | some first =>
        obtain ⟨c, tail, rfl, solid, notBracket, -⟩ := serialize_head replacer item first serialized
        cases more <;> simp [serializeItems, serialized, intercalate_singleton, intercalate_cons_cons,
          solid, notBracket]
    have skipped : skipWs (List.intercalate [','] (serializeItems replacer (item :: more)) ++ ']' :: rest) =
        List.intercalate [','] (serializeItems replacer (item :: more)) ++ ']' :: rest := by
      rw [starts]
      exact skipWs_cons c _ solid
    rw [skipped, parseItems_serializeItems replacer _ each (by simp) fuel rest (by omega)]
    simp [starts, notBracket, parsedForm]

theorem quote_append (key : String) (more : List Char) :
    quote key ++ more = '"' :: (key.toList.flatMap escape ++ '"' :: more) := by
  simp [quote]

theorem setMember_fresh (members : List (String × JsValue)) (key : String) (value : JsValue)
    (fresh : key ∉ keys members) : setMember members key value = members ++ [(key, value)] := by
  induction members with
  | nil => rfl
  | cons member members ih =>
    obtain ⟨name, old⟩ := member
    simp only [keys, List.map_cons, List.mem_cons, not_or] at fresh
    simp [setMember, Ne.symm fresh.1, ih fresh.2]

/-- The members `SerializeJSONObject` writes, in property-list order, each with its value's text. -/
def objectEntries (replacer : Option (List String)) (properties : List String)
    (members : List (String × JsValue)) : List (String × JsValue × List Char) :=
  properties.filterMap fun key =>
    (members.lookup key).bind fun value => (serialize replacer value).map fun text => (key, value, text)

theorem lookup_parsedMembers (replacer : Option (List String)) (members : List (String × JsValue))
    (key : String) :
    (parsedMembers replacer members).lookup key = (members.lookup key).map fun value =>
      if (serialize replacer value).isSome then some (parsedForm replacer value) else none := by
  induction members with
  | nil => rfl
  | cons member members ih =>
    obtain ⟨name, value⟩ := member
    by_cases same : key = name
    · subst same
      simp [parsedMembers]
    · have differ : (key == name) = false := by simpa using same
      simp [parsedMembers, List.lookup_cons, differ, ih]

theorem objectParts_eq_entries (replacer : Option (List String)) (properties : List String)
    (members : List (String × JsValue)) :
    objectParts properties (serializeMembers replacer members) =
      (objectEntries replacer properties members).map fun entry => quote entry.1 ++ ':' :: entry.2.2 := by
  induction properties with
  | nil => rfl
  | cons key properties ih =>
    simp only [objectParts, objectEntries, List.filterMap_cons, lookup_serializeMembers] at ih ⊢
    cases looked : members.lookup key with
    | none => simpa using ih
    | some value => cases serialized : serialize replacer value <;> simpa [serialized] using ih

theorem parsedObject_eq_entries (replacer : Option (List String)) (properties : List String)
    (members : List (String × JsValue)) :
    parsedObject properties (parsedMembers replacer members) =
      (objectEntries replacer properties members).map fun entry => (entry.1, parsedForm replacer entry.2.1) := by
  induction properties with
  | nil => rfl
  | cons key properties ih =>
    simp only [parsedObject, objectEntries, List.filterMap_cons, lookup_parsedMembers] at ih ⊢
    cases looked : members.lookup key with
    | none => simpa using ih
    | some value => cases serialized : serialize replacer value <;> simpa [serialized] using ih

theorem lookup_parsedObject (properties : List String) (values : List (String × Option JsValue))
    (distinct : properties.Nodup) (key : String) :
    (parsedObject properties values).lookup key =
      if key ∈ properties then (values.lookup key).join else none := by
  induction properties with
  | nil => simp [parsedObject]
  | cons name properties ih =>
    obtain ⟨fresh, distinct⟩ := List.nodup_cons.mp distinct
    have rest := ih distinct
    simp only [parsedObject] at rest ⊢
    by_cases same : key = name
    · subst same
      cases found : (values.lookup key).join with
      | none =>
        simp only [List.filterMap_cons, found, Option.map_none', rest, if_neg fresh, List.mem_cons_self, if_true]
      | some value =>
        simp only [List.filterMap_cons, found, Option.map_some', List.lookup_cons_self, List.mem_cons_self, if_true]
    · have differ : (key == name) = false := by simpa using same
      cases found : (values.lookup name).join with
      | none => simp only [List.filterMap_cons, found, Option.map_none', rest, List.mem_cons, same, false_or]
      | some value =>
        simp only [List.filterMap_cons, found, Option.map_some', List.lookup_cons, differ, rest, List.mem_cons, same,
          false_or]

/-- An object keeps every property-list key whose value has JSON text, in property-list order. -/
theorem keys_parsedObject (properties : List String) (values : List (String × Option JsValue))
    (present : ∀ key ∈ properties, ((values.lookup key).join).isSome) :
    (parsedObject properties values).map Prod.fst = properties := by
  induction properties with
  | nil => rfl
  | cons key properties ih =>
    obtain ⟨value, found⟩ := Option.isSome_iff_exists.mp (present key (List.mem_cons_self _ _))
    have rest := ih fun other listed => present other (List.mem_cons_of_mem _ listed)
    simp only [parsedObject] at rest ⊢
    rw [List.filterMap_cons_some (show _ = some (key, value) by rw [found]; rfl), List.map_cons, rest]

/-- Array elements that all have JSON text read back one by one. -/
theorem parsedItems_of_serialized (replacer : Option (List String)) (items : List JsValue)
    (serialized : ∀ item ∈ items, (serialize replacer item).isSome) :
    parsedItems replacer items = items.map (parsedForm replacer) := by
  induction items with
  | nil => rfl
  | cons item items ih =>
    simp only [parsedItems, serialized item (List.mem_cons_self _ _), if_true, List.map_cons,
      ih fun other listed => serialized other (List.mem_cons_of_mem _ listed)]

/-- A string member the replacer lists reads back unchanged, and an absent one stays absent. -/
theorem get_parsedObject (replacer : Option (List String)) (members : List (String × JsValue)) (key : String)
    (listed : key ∈ keys members → key ∈ replacer.getD (keys members))
    (textual : ∀ value, members.lookup key = some value → ∃ text, value = .string text) :
    Stringify.get (parsedObject (propertyList (replacer.getD (keys members))) (parsedMembers replacer members)) key =
      Stringify.get members key := by
  rw [get_eq_lookup, get_eq_lookup, lookup_parsedObject _ _ (propertyList_nodup _), lookup_parsedMembers]
  simp only [mem_propertyList]
  cases found : members.lookup key with
  | none => simp
  | some value =>
    obtain ⟨text, rfl⟩ := textual value found
    obtain ⟨member, inside, named⟩ := List.lookup_isSome_iff.mp (by simp [found] : (members.lookup key).isSome)
    have present : key ∈ keys members := List.mem_map.mpr ⟨member, inside, (beq_iff_eq.mp named).symm⟩
    simp [listed present, serialize, parsedForm]

theorem mem_objectEntries (replacer : Option (List String)) (properties : List String)
    (members : List (String × JsValue)) (entry : String × JsValue × List Char)
    (member : entry ∈ objectEntries replacer properties members) :
    entry.1 ∈ properties ∧ members.lookup entry.1 = some entry.2.1 ∧
      serialize replacer entry.2.1 = some entry.2.2 := by
  obtain ⟨key, listed, found⟩ := List.mem_filterMap.mp member
  cases looked : members.lookup key with
  | none => simp [looked] at found
  | some value =>
    cases serialized : serialize replacer value with
    | none => simp [looked, serialized] at found
    | some text =>
      simp only [looked, serialized, Option.some_bind, Option.map_some', Option.some.injEq] at found
      subst found
      exact ⟨listed, looked, serialized⟩

theorem objectEntries_keys_nodup (replacer : Option (List String)) (properties : List String)
    (members : List (String × JsValue)) (distinct : properties.Nodup) :
    ((objectEntries replacer properties members).map Prod.fst).Nodup := by
  induction properties with
  | nil => simp [objectEntries]
  | cons key properties ih =>
    obtain ⟨fresh, distinct⟩ := List.nodup_cons.mp distinct
    have rest := ih distinct
    have keysFrom := fun entry member => (mem_objectEntries replacer properties members entry member).1
    simp only [objectEntries] at rest keysFrom ⊢
    rw [List.filterMap_cons]
    cases looked : members.lookup key with
    | none => simpa using rest
    | some value =>
      cases serialized : serialize replacer value with
      | none => simpa [serialized] using rest
      | some text =>
        simp only [Option.some_bind, serialized, Option.map_some', List.map_cons, List.nodup_cons]
        exact ⟨fun found => by
          obtain ⟨entry, member, same⟩ := List.mem_map.mp found
          exact fresh (same ▸ keysFrom entry member), rest⟩

theorem parseMembers_entries (replacer : Option (List String)) (entries : List (String × JsValue × List Char))
    (each : ∀ entry ∈ entries, serialize replacer entry.2.1 = some entry.2.2 ∧ ReadsBack replacer entry.2.1)
    (distinct : (entries.map Prod.fst).Nodup) (nonempty : entries ≠ []) (members : List (String × JsValue))
    (fresh : ∀ entry ∈ entries, entry.1 ∉ keys members) (fuel : Nat) (rest : List Char)
    (fits : (List.intercalate [','] (entries.map fun entry => quote entry.1 ++ ':' :: entry.2.2)).length + 1 <
      fuel) :
    parseMembers fuel members
        (List.intercalate [','] (entries.map fun entry => quote entry.1 ++ ':' :: entry.2.2) ++ '}' :: rest) =
      some (members ++ entries.map fun entry => (entry.1, parsedForm replacer entry.2.1), rest) := by
  induction entries generalizing members fuel with
  | nil => contradiction
  | cons entry entries ih =>
    obtain ⟨key, value, text⟩ := entry
    obtain ⟨serialized, readsBack⟩ := each _ (List.mem_cons_self _ _)
    obtain _ | fuel := fuel
    · omega
    have added := setMember_fresh members key (parsedForm replacer value) (fresh _ (List.mem_cons_self _ _))
    have member (more : List Char) (delimited : Delimited more) (short : text.length < fuel) :
        parseMembers (fuel + 1) members (quote key ++ ':' :: (text ++ more)) =
          match skipWs more with
          | ',' :: rest => parseMembers fuel (members ++ [(key, parsedForm replacer value)]) rest
          | '}' :: rest => some (members ++ [(key, parsedForm replacer value)], rest)
          | _ => none := by
      rw [parseMembers, quote_append, skipWs_cons '"' _ (by decide)]
      simp only [parseChars_quote, skipWs_cons ':' _ (by decide), readsBack text serialized fuel more short delimited]
      simp [added]
    cases entries with
    | nil =>
      simp only [List.map_cons, List.map_nil, intercalate_singleton] at fits ⊢
      rw [List.append_assoc, List.cons_append,
        member _ (delimited_cons '}' rest (by decide)) (by simp [quote] at fits; omega)]
      simp [skipWs, isWhitespace]
    | cons second entries =>
      simp only [List.map_cons, intercalate_cons_cons, List.length_append, List.length_singleton] at fits ⊢
      rw [List.append_assoc, List.append_assoc, List.singleton_append, List.append_assoc, List.cons_append,
        member _ (delimited_cons ',' _ (by decide)) (by simp [quote] at fits; omega)]
      have later := ih (fun entry member => each entry (List.mem_cons_of_mem _ member))
        (List.nodup_cons.mp distinct).2 (by simp) (members ++ [(key, parsedForm replacer value)])
        (fun entry member => by
          have other : entry.1 ≠ key := fun same => (List.nodup_cons.mp distinct).1 <| by
            simpa [same] using List.mem_map_of_mem Prod.fst member
          simpa [keys, other] using fresh entry (List.mem_cons_of_mem _ member))
        fuel (by simp only [List.map_cons] at *; omega)
      simp only [List.map_cons] at later
      simp [skipWs, isWhitespace, later]

theorem readsBack_object (replacer : Option (List String)) (members : List (String × JsValue))
    (each : ∀ member ∈ members, ReadsBack replacer member.2) : ReadsBack replacer (.object members) := by
  rintro text serialized (_ | fuel) rest fits -
  · omega
  cases serialized
  set properties := propertyList (replacer.getD (keys members))
  have entriesRead : ∀ entry ∈ objectEntries replacer properties members,
      serialize replacer entry.2.1 = some entry.2.2 ∧ ReadsBack replacer entry.2.1 := fun entry member => by
    obtain ⟨-, looked, serialized⟩ := mem_objectEntries replacer properties members entry member
    obtain ⟨before, after, split, -⟩ := List.lookup_eq_some_iff.mp looked
    exact ⟨serialized, each (entry.1, entry.2.1) (by simp [split])⟩
  rw [objectParts_eq_entries] at fits ⊢
  simp only [List.cons_append, List.append_assoc, List.singleton_append, List.nil_append,
    List.length_cons, List.length_append, List.length_singleton] at fits ⊢
  rw [parseValue_object]
  simp only [parsedForm, parsedObject_eq_entries]
  cases entries : objectEntries replacer properties members with
  | nil => simp [skipWs, isWhitespace]
  | cons entry more =>
    rw [entries] at entriesRead fits
    have starts : ∃ tail, List.intercalate [','] ((entry :: more).map fun entry =>
        quote entry.1 ++ ':' :: entry.2.2) = '"' :: tail := by
      cases more <;> simp [quote, intercalate_singleton, intercalate_cons_cons]
    obtain ⟨tail, starts⟩ := starts
    have distinct := objectEntries_keys_nodup replacer properties members (propertyList_nodup _)
    rw [entries] at distinct
    rw [starts, List.cons_append, skipWs_cons '"' _ (by decide), ← List.cons_append, ← starts,
      parseMembers_entries replacer _ entriesRead distinct (by simp) [] (by simp [keys]) fuel rest (by omega)]
    simp only [starts]
    simp

mutual
theorem readsBack (replacer : Option (List String)) : (value : JsValue) → ReadsBack replacer value
  | .undefined => fun text serialized => by simp [serialize] at serialized
  | .null => readsBack_null replacer
  | .bool b => readsBack_bool replacer b
  | .number n => readsBack_number replacer n
  | .string s => readsBack_string replacer s
  | .array items => readsBack_array replacer items (itemsReadBack replacer items)
  | .object members => readsBack_object replacer members (membersReadBack replacer members)

theorem itemsReadBack (replacer : Option (List String)) :
    (items : List JsValue) → ∀ item ∈ items, ReadsBack replacer item
  | [] => fun _ absent => absurd absent (List.not_mem_nil _)
  | item :: items => fun other member =>
    (List.mem_cons.mp member).elim (fun same => same ▸ readsBack replacer item)
      (itemsReadBack replacer items other)

theorem membersReadBack (replacer : Option (List String)) :
    (members : List (String × JsValue)) → ∀ member ∈ members, ReadsBack replacer member.2
  | [] => fun _ absent => absurd absent (List.not_mem_nil _)
  | (_, value) :: members => fun other member =>
    (List.mem_cons.mp member).elim (fun same => same ▸ readsBack replacer value)
      (membersReadBack replacer members other)
end

/-- `JSON.parse` reads back what `JSON.stringify` writes, as `parsedForm`. -/
theorem parse_stringify (value : JsValue) (replacer : Option (List String)) (text : String)
    (stringified : stringify value replacer = some text) : parse text = some (parsedForm replacer value) := by
  obtain ⟨chars, serialized, rfl⟩ := Option.map_eq_some'.mp stringified
  have parsed := readsBack replacer value chars serialized (chars.length + 1) [] (by omega) trivial
  simp only [List.append_nil] at parsed
  simp [parse, String.length, parsed, skipWs]

end Msal.Json.Parse