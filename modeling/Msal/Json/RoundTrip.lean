import Msal.Json.Parse

/-! Values that `JSON.stringify` writes in full and `JSON.parse` reads back as they were: no `undefined`
anywhere, and no object with a repeated key. What `JSON.parse` returns for the text of any value is
such a value, so a value read from JSON text and written again reads back the same. -/

namespace Msal.Json.RoundTrip
open Msal.Json.Stringify Msal.Json.Parse

mutual
/-- A value as JavaScript holds it after `JSON.parse`: no `undefined`, no object with a repeated key. -/
def WellFormed : JsValue → Prop
  | .undefined => False
  | .array items => ItemsWellFormed items
  | .object members => (keys members).Nodup ∧ MembersWellFormed members
  | _ => True

def ItemsWellFormed : List JsValue → Prop
  | [] => True
  | item :: items => WellFormed item ∧ ItemsWellFormed items

def MembersWellFormed : List (String × JsValue) → Prop
  | [] => True
  | (_, value) :: members => WellFormed value ∧ MembersWellFormed members
end

@[simp] theorem wellFormed_object (members : List (String × JsValue)) :
    WellFormed (.object members) ↔ (keys members).Nodup ∧ MembersWellFormed members := Iff.rfl

theorem membersWellFormed_iff (members : List (String × JsValue)) :
    MembersWellFormed members ↔ ∀ member ∈ members, WellFormed member.2 := by
  induction members with
  | nil => exact ⟨fun _ _ => nofun, fun _ => trivial⟩
  | cons member members ih =>
    obtain ⟨name, value⟩ := member
    rw [List.forall_mem_cons, ← ih]
    rfl

theorem wellFormed_serialize_isSome (replacer : Option (List String)) {value : JsValue}
    (wellFormed : WellFormed value) : (serialize replacer value).isSome := by
  rw [Option.isSome_iff_ne_none, Ne, serialize_eq_none_iff]
  rintro rfl
  exact wellFormed

/-- An object whose members all have a value reads back with its own keys, in its own order. -/
theorem parsedObject_present (members : List (String × JsValue)) (distinct : (keys members).Nodup) :
    parsedObject (keys members) (members.map fun member => (member.1, some member.2)) = members := by
  induction members with
  | nil => rfl
  | cons member members ih =>
    obtain ⟨name, value⟩ := member
    simp only [keys, List.map_cons, List.nodup_cons] at distinct ih ⊢
    have later : parsedObject (keys members) ((name, some value) :: members.map fun member => (member.1, some member.2)) =
        members := by
      refine Eq.trans (List.filterMap_congr fun key listed => ?_) (ih distinct.2)
      have differ : (key == name) = false := beq_false_of_ne fun same => distinct.1 (same ▸ listed)
      rw [List.lookup_cons, differ]
    rw [parsedObject, List.filterMap_cons_some (show _ = some (name, value) by rw [List.lookup_cons_self]; rfl)]
    exact congrArg _ later

mutual
/-- With no replacer, `JSON.parse` reads a well-formed value back from its text as it was. -/
theorem parsedForm_of_wellFormed : (value : JsValue) → WellFormed value → parsedForm none value = value
  | .undefined, wellFormed => wellFormed.elim
  | .null, _ | .bool _, _ | .number _, _ | .string _, _ => rfl
  | .array items, wellFormed => congrArg JsValue.array (parsedItems_of_wellFormed items wellFormed)
  | .object members, ⟨distinct, wellFormed⟩ => by
    rw [parsedForm, Option.getD_none, propertyList_of_nodup distinct, parsedMembers_of_wellFormed members wellFormed,
      parsedObject_present members distinct]

theorem parsedItems_of_wellFormed : (items : List JsValue) → ItemsWellFormed items → parsedItems none items = items
  | [], _ => rfl
  | item :: items, ⟨wellFormed, rest⟩ => by
    rw [parsedItems, if_pos (wellFormed_serialize_isSome none wellFormed), parsedForm_of_wellFormed item wellFormed,
      parsedItems_of_wellFormed items rest]

theorem parsedMembers_of_wellFormed : (members : List (String × JsValue)) → MembersWellFormed members →
    parsedMembers none members = members.map fun member => (member.1, some member.2)
  | [], _ => rfl
  | (name, value) :: members, ⟨wellFormed, rest⟩ => by
    rw [parsedMembers, if_pos (wellFormed_serialize_isSome none wellFormed), parsedForm_of_wellFormed value wellFormed,
      parsedMembers_of_wellFormed members rest]
    rfl
end

theorem mem_of_lookup {members : List (String × JsValue)} {key : String} {value : JsValue}
    (found : members.lookup key = some value) : (key, value) ∈ members := by
  obtain ⟨before, after, rfl, -⟩ := List.lookup_eq_some_iff.mp found
  simp

theorem defined_of_serialize {replacer : Option (List String)} {value : JsValue} {text : List Char}
    (serialized : serialize replacer value = some text) : value ≠ .undefined := by
  rintro rfl
  cases serialized

mutual
/-- What `JSON.parse` returns for the text of any value is well formed: an array element with no text
comes back `null`, and an object keeps each key of its property list once. -/
theorem wellFormed_parsedForm (replacer : Option (List String)) :
    (value : JsValue) → value ≠ .undefined → WellFormed (parsedForm replacer value)
  | .undefined, defined => absurd rfl defined
  | .null, _ | .bool _, _ | .number _, _ | .string _, _ => trivial
  | .array items, _ => itemsWellFormed_parsedItems replacer items
  | .object members, _ => by
    rw [parsedForm, parsedObject_eq_entries, wellFormed_object, membersWellFormed_iff]
    refine ⟨?_, fun member listed => ?_⟩
    · simpa [keys, List.map_map] using objectEntries_keys_nodup replacer _ members (propertyList_nodup _)
    · obtain ⟨entry, inside, rfl⟩ := List.mem_map.mp listed
      obtain ⟨-, found, serialized⟩ := mem_objectEntries replacer _ members entry inside
      exact membersWellFormed_parsedForm replacer members _ (mem_of_lookup found) (defined_of_serialize serialized)

theorem itemsWellFormed_parsedItems (replacer : Option (List String)) :
    (items : List JsValue) → ItemsWellFormed (parsedItems replacer items)
  | [] => trivial
  | item :: items => by
    rw [parsedItems]
    refine ⟨?_, itemsWellFormed_parsedItems replacer items⟩
    split
    · next serialized =>
      obtain ⟨text, serialized⟩ := Option.isSome_iff_exists.mp serialized
      exact wellFormed_parsedForm replacer item (defined_of_serialize serialized)
    · trivial

theorem membersWellFormed_parsedForm (replacer : Option (List String)) :
    (members : List (String × JsValue)) →
      ∀ member ∈ members, member.2 ≠ .undefined → WellFormed (parsedForm replacer member.2)
  | [] => fun _ absent => absurd absent (List.not_mem_nil _)
  | (_, value) :: members => fun member listed =>
    (List.mem_cons.mp listed).elim (fun same => same ▸ wellFormed_parsedForm replacer value)
      (membersWellFormed_parsedForm replacer members member)
end

/-- `JSON.parse` of `JSON.stringify(object)` is the object again, when it is well formed. -/
theorem parse_stringifyObject {members : List (String × JsValue)} (wellFormed : WellFormed (.object members)) :
    parse (stringifyObject members none) = some (.object members) := by
  rw [parse_stringify _ none _ (stringify_object members none), parsedForm_of_wellFormed _ wellFormed]

theorem keys_setMember (members : List (String × JsValue)) (key : String) (value : JsValue) :
    ∀ name ∈ keys (setMember members key value), name ∈ keys members ∨ name = key := by
  induction members with
  | nil => simp [setMember, keys]
  | cons member members ih =>
    obtain ⟨other, old⟩ := member
    intro name listed
    by_cases same : other = key
    · simp only [setMember, same, if_true, keys, List.map_cons, List.mem_cons] at listed
      simp only [keys, List.map_cons, List.mem_cons]
      rcases listed with rfl | inside
      · exact .inr rfl
      · exact .inl (.inr inside)
    · simp only [setMember, same, if_false, keys, List.map_cons, List.mem_cons] at listed
      simp only [keys, List.map_cons, List.mem_cons]
      rcases listed with rfl | inside
      · exact .inl (.inl rfl)
      · exact (ih name inside).imp .inr id

/-- Setting a property, as `payload.cnf = ...` does, keeps an object well formed. -/
theorem wellFormed_setMember {members : List (String × JsValue)} (key : String) {value : JsValue}
    (wellFormed : WellFormed (.object members)) (valueWellFormed : WellFormed value) :
    WellFormed (.object (setMember members key value)) := by
  induction members with
  | nil => exact ⟨List.nodup_singleton key, valueWellFormed, trivial⟩
  | cons member members ih =>
    obtain ⟨other, old⟩ := member
    obtain ⟨distinct, oldWellFormed, rest⟩ := wellFormed
    simp only [keys, List.map_cons, List.nodup_cons] at distinct
    by_cases same : other = key
    · subst same
      simp only [setMember, if_true]
      exact ⟨List.nodup_cons.mpr distinct, valueWellFormed, rest⟩
    · simp only [setMember, same, if_false]
      obtain ⟨setDistinct, setRest⟩ := ih ⟨distinct.2, rest⟩
      refine ⟨List.nodup_cons.mpr ⟨fun listed => ?_, setDistinct⟩, oldWellFormed, setRest⟩
      rcases keys_setMember members key value other listed with inside | named
      · exact distinct.1 inside
      · exact same named

end Msal.Json.RoundTrip
