import HostConsole.Proofs.KeyedValues
import HostConsole.Server.Registration

/-!
# Fields that are sent

What the server is told about a system is an object whose fields are those that have a value. A
field without one is left out and not sent empty, so what was not given stays at the server as it
is.

## Main definitions

* `presentFields`: the fields that have a value
* `AreFields`: some fields are those that have a value, each of them once
* `HoldsLast`: a table has the last value of each key
* `Registration.fields`, `SystemUpdate.fields`: the fields of a body, with the values that they have

## Main results

* `areFields_ofList`, `get?_ofList_presentFields`: an object of present fields has these
* `Registration.areFields_body`, `SystemUpdate.areFields_body`: what the bodies have
-/

namespace HostConsole

open Json

/-- The fields that have a value. -/
def presentFields (fields : List (String × Option Json)) : List (String × Json) :=
  fields.flatMap fun (key, value?) => (value?.map fun value => (key, value)).toList

/-- The sent fields are those that have a value, each of them once. -/
def AreFields (sent : List (String × Json)) (fields : List (String × Option Json)) : Prop :=
  (sent.map Prod.fst).Nodup ∧ ∀ key value, (key, value) ∈ sent ↔ (key, some value) ∈ fields

/-- The table has the last value of each key among the pairs, and no other key. -/
def HoldsLast (table pairs : List (String × String)) : Prop :=
  (table.map Prod.fst).Nodup ∧ ∀ key value, (key, value) ∈ table ↔
    ∃ before after, pairs = before ++ (key, value) :: after ∧ key ∉ after.map Prod.fst

theorem holdsLast_ofList (pairs : List (String × String)) :
    HoldsLast (Dictionary.ofList pairs) pairs :=
  ⟨(Dictionary.isOrdered_ofList pairs).nodup_keys, fun _ _ => Dictionary.mem_ofList_iff⟩

section Present

variable {fields : List (String × Option Json)} {key : String} {value : Json}

theorem mem_presentFields : (key, value) ∈ presentFields fields ↔ (key, some value) ∈ fields := by
  unfold presentFields
  rw [List.mem_flatMap]
  constructor
  · rintro ⟨⟨k, value?⟩, mem, present⟩
    cases value? with
    | none => cases present
    | some v =>
      cases List.mem_singleton.mp present
      exact mem
  · intro mem
    exact ⟨(key, some value), mem, List.mem_singleton_self _⟩

/-- The present fields keep their names, in the same order. -/
theorem keys_presentFields_sublist (fields : List (String × Option Json)) :
    ((presentFields fields).map Prod.fst).Sublist (fields.map Prod.fst) := by
  induction fields with
  | nil => exact .slnil
  | cons field fields ih =>
    obtain ⟨key, value?⟩ := field
    cases value? with
    | none => exact ih.cons key
    | some value => exact ih.cons_cons key

/-- **An object of present fields has these**, each of them once. -/
theorem areFields_ofList (distinct : (fields.map Prod.fst).Nodup) :
    AreFields (Dictionary.ofList (presentFields fields)) fields := by
  refine ⟨(Dictionary.isOrdered_ofList _).nodup_keys, fun key value => ?_⟩
  have once : ((presentFields fields).map Prod.fst).Nodup :=
    distinct.sublist (keys_presentFields_sublist fields)
  rw [Dictionary.mem_ofList_of_nodup once, mem_presentFields]

theorem presentFields_append (fields more : List (String × Option Json)) :
    presentFields fields ++ presentFields more = presentFields (fields ++ more) :=
  List.flatMap_append.symm

/-- A field is found with its value, if it has one. -/
theorem get?_ofList_presentFields (distinct : (fields.map Prod.fst).Nodup) (key : String) :
    Dictionary.get? (Dictionary.ofList (presentFields fields)) key =
      (fields.lookup key).join := by
  obtain ⟨once, same⟩ := areFields_ofList distinct
  ext value
  rw [Dictionary.get?, lookup_eq_some_iff_mem once, same, ← lookup_eq_some_iff_mem distinct,
    Option.join_eq_some_iff]

end Present

/-! ## The bodies -/

/-- The list of some texts, where there are any. -/
def someTexts (values : List String) : Option Json :=
  if values = [] then none else some (ofList Json.string values)

theorem textField_eq (key : String) (value : Option String) :
    textField key value = presentFields [(key, value.map Json.string)] := by
  cases value <;> rfl

theorem numberField_eq (key : String) (value : Option Nat) :
    numberField key value = presentFields [(key, value.map ofNat)] := by
  cases value <;> rfl

theorem textsField_eq (key : String) (values : List String) :
    textsField key values = presentFields [(key, someTexts values)] := by
  cases values <;> rfl

/-- What a registration says, field by field. -/
def Registration.fields (r : Registration) : List (String × Option Json) :=
  [("name", some (.string r.name)), ("cType", some (.string r.consumerType)),
    ("facts", some (ofDictionary Json.string r.facts)),
    ("environment_id", r.environmentId.map ofNat),
    ("activation_keys", someTexts r.activationKeys),
    ("releaseVer", r.release.map Json.string), ("serviceLevel", r.serviceLevel.map Json.string)]

/-- **What is sent of a registration** are the fields that have a value. -/
theorem Registration.body_eq (r : Registration) :
    r.body = .object (Dictionary.ofList (presentFields r.fields)) := by
  have always : [("name", Json.string r.name), ("cType", .string r.consumerType),
      ("facts", ofDictionary Json.string r.facts)] =
      presentFields [("name", some (.string r.name)), ("cType", some (.string r.consumerType)),
        ("facts", some (ofDictionary Json.string r.facts))] := rfl
  unfold body
  rw [always, numberField_eq, textsField_eq, textField_eq, textField_eq, presentFields_append,
    presentFields_append, presentFields_append, presentFields_append]
  rfl

theorem Registration.nodup_fields (r : Registration) : (r.fields.map Prod.fst).Nodup := by
  have names : r.fields.map Prod.fst =
      ["name", "cType", "facts", "environment_id", "activation_keys", "releaseVer",
        "serviceLevel"] := rfl
  rw [names]
  decide

/-- The body of a registration has the fields that have a value. -/
theorem Registration.areFields_body (r : Registration) :
    ∃ sent, r.body = .object sent ∧ AreFields sent r.fields :=
  ⟨_, r.body_eq, areFields_ofList r.nodup_fields⟩

/-- What an update says, field by field. -/
def SystemUpdate.fields (u : SystemUpdate) : List (String × Option Json) :=
  [("name", u.name.map Json.string), ("description", u.description.map Json.string),
    ("location", u.location.map Json.string), ("releaseVer", u.release.map Json.string),
    ("serviceLevel", u.serviceLevel.map Json.string),
    ("environment_id", u.environmentId.map ofNat)]

/-- **What is sent of an update** are the fields that have a value, within one of their own. -/
theorem SystemUpdate.body_eq (u : SystemUpdate) :
    u.body = .object [("system", .object (Dictionary.ofList (presentFields u.fields)))] := by
  unfold body
  rw [textField_eq, textField_eq, textField_eq, textField_eq, textField_eq, numberField_eq,
    presentFields_append, presentFields_append, presentFields_append, presentFields_append,
    presentFields_append]
  rfl

theorem SystemUpdate.nodup_fields (u : SystemUpdate) : (u.fields.map Prod.fst).Nodup := by
  have names : u.fields.map Prod.fst =
      ["name", "description", "location", "releaseVer", "serviceLevel", "environment_id"] := rfl
  rw [names]
  decide

/-- The body of an update has the fields that have a value. -/
theorem SystemUpdate.areFields_body (u : SystemUpdate) :
    ∃ sent, u.body = .object [("system", .object sent)] ∧ AreFields sent u.fields :=
  ⟨_, u.body_eq, areFields_ofList u.nodup_fields⟩

end HostConsole
