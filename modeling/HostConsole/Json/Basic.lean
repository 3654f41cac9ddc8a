import HostConsole.Dictionary
import HostConsole.Number.Binary64
import HostConsole.Number.Bound

/-!
# JSON values

A value as its text gives it, fields in the order of the text. A text can be well formed and
still denote nothing, by half of a surrogate pair, by a number beyond the range of numbers or by
too deep a nesting. Such a part is kept as a `defect`: it harms nobody who passes over it.

## Main definitions

* `Json.Number`, `Json`: numbers and values
* `Json.normal?`: the value with every object in the order of its keys, when it has no defect
-/

namespace HostConsole

/-- A number is an integer when it is written as one and fits 64 bits, with or without sign. -/
inductive Json.Number where
  | integer (n : Int)
  | float (x : Binary64)
  deriving DecidableEq, Repr, Inhabited

/-- A value. -/
inductive Json where
  | null
  | bool (b : Bool)
  | number (n : Json.Number)
  | string (s : String)
  | array (items : List Json)
  | object (fields : List (String × Json))
  /-- A well-formed part that denotes no value. -/
  | defect
  deriving Repr, Inhabited

namespace Json

/-- The largest integer that is kept as one. -/
def largestInteger : Int := bound64 - 1

mutual

/-- The value with every object in the order of its keys, the last value of a key counting;
`none` when a part of it is a defect. -/
def normal? : Json → Option Json
  | null => some null
  | bool b => some (bool b)
  | number n => some (number n)
  | string s => some (string s)
  | array items => (normalItems? items).map array
  | object fields => (normalFields? fields).map fun pairs => object (Dictionary.ofList pairs)
  | defect => none

/-- Every item in its normal form. -/
def normalItems? : List Json → Option (List Json)
  | [] => some []
  | item :: rest => do
    let item ← normal? item
    let rest ← normalItems? rest
    pure (item :: rest)

/-- Every field's value in its normal form. -/
def normalFields? : List (String × Json) → Option (List (String × Json))
  | [] => some []
  | (key, value) :: rest => do
    let value ← normal? value
    let rest ← normalFields? rest
    pure ((key, value) :: rest)

end

/-- The text of a string value. -/
def text? : Json → Option String
  | string s => some s
  | _ => none

/-- The items of an array. -/
def items? : Json → Option (List Json)
  | array items => some items
  | _ => none

/-- The value under a key of an object in normal form. -/
def get? (value : Json) (key : String) : Option Json :=
  match value with
  | object fields => Dictionary.get? fields key
  | _ => none

/-- Does a value stand for yes? No stand `null`, `false`, zeros and what is empty. -/
def isTruthy : Json → Bool
  | null | defect => false
  | bool b => b
  | number (.integer n) => n != 0
  | number (.float x) => !x.isZero
  | string s => s != ""
  | array items => !items.isEmpty
  | object fields => !fields.isEmpty

end Json

end HostConsole
