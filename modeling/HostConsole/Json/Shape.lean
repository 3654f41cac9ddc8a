import HostConsole.Json.Basic

/-!
# Shapes of JSON values

Readers for the values that records are made of, each with the writer that goes with it, and
the reading of records: an object gives the fields of a record by name, an array gives them by
position.

## Main definitions

* `natural?`, `integer?`, `flag?`, `optional?`, `list?`, `dictionary?`: readers of values
* `fields?`: the fields of a record, in either form
* `required`, `orDefault`: one field out of them
-/

namespace HostConsole.Json

variable {α : Type}

/-- An integer from zero up to the largest one. -/
def natural? : Json → Option Nat
  | number (.integer n) => if 0 ≤ n ∧ n ≤ largestInteger then some n.toNat else none
  | _ => none

/-- An integer that fits 64 bits with a sign. -/
def integer? : Json → Option Int
  | number (.integer n) => if fitsSigned n then some n else none
  | _ => none

/-- A truth value. -/
def flag? : Json → Option Bool
  | bool b => some b
  | _ => none

/-- A value that `null` leaves out. -/
def optional? (reader : Json → Option α) : Json → Option (Option α)
  | null => some none
  | value => (reader value).map some

/-- An array of values. -/
def list? (reader : Json → Option α) : Json → Option (List α)
  | array items => items.mapM reader
  | _ => none

/-- An object of values, the last value of a key counting. -/
def dictionary? (reader : Json → Option α) : Json → Option (Dictionary α)
  | object fields => do
    let pairs ← fields.mapM fun (key, value) => (reader value).map fun v => (key, v)
    return Dictionary.ofList pairs
  | _ => none

/-- An integer as a value. -/
def ofInt (n : Int) : Json := number (.integer n)

/-- A natural number as a value. -/
def ofNat (n : Nat) : Json := ofInt n

/-- A value, or `null` where there is none. -/
def ofOption (writer : α → Json) : Option α → Json
  | none => null
  | some value => writer value

/-- Values as an array. -/
def ofList (writer : α → Json) (values : List α) : Json :=
  array (values.map writer)

/-- A dictionary as an object. -/
def ofDictionary (writer : α → Json) (entries : Dictionary α) : Json :=
  object (entries.map fun (key, value) => (key, writer value))

/-- The fields of a record with the given field names. In an object the other fields do not
count and a name may not come twice; an array gives the fields in order and may be shorter. -/
def fields? (names : List String) : Json → Option (List (String × Json))
  | object fields =>
    let known := fields.filter fun field => names.contains field.1
    if (known.map Prod.fst).Nodup then some known else none
  | array items => if items.length ≤ names.length then some (names.zip items) else none
  | _ => none

/-- A field that has to be there. -/
def required (fields : List (String × Json)) (name : String) (reader : Json → Option α) :
    Option α :=
  fields.lookup name >>= reader

/-- A field with a value for its absence. -/
def orDefault (fields : List (String × Json)) (name : String) (absent : α)
    (reader : Json → Option α) : Option α :=
  match fields.lookup name with
  | none => some absent
  | some value => reader value

@[simp] theorem natural?_ofNat {n : Nat} (h : (n : Int) ≤ largestInteger) :
    natural? (ofNat n) = some n := by
  simp [natural?, ofNat, ofInt, h]

@[simp] theorem flag?_bool (b : Bool) : flag? (bool b) = some b := rfl

@[simp] theorem text?_string (s : String) : text? (string s) = some s := rfl

/-- An array is read back when each of its values is. -/
theorem list?_ofList {writer : α → Json} {reader : Json → Option α} {values : List α}
    (h : ∀ value ∈ values, reader (writer value) = some value) :
    list? reader (ofList writer values) = some values := by
  change (values.map writer).mapM reader = some values
  induction values with
  | nil => rfl
  | cons value values ih => simp_all

end HostConsole.Json
