import HostConsole.Record.NamedRef

/-!
# Machines

A machine as the server knows it, and the free key/value texts attached to one.

## Main definitions

* `Machine`: the record, `Machine.ofJson?` and `Machine.toJson`
* `Machine.customInfoKey`: under which key the attached texts are kept
* `Machine.isBlankRecord`: the record that the server sends for a write it rejected
* `CustomInfo`: attached texts, several for each key
-/

namespace HostConsole

open Json

/-- A registered machine, which the console calls a system. -/
structure Machine where
  id : Option Nat := none
  uuid : String := ""
  name : String := ""
  description : Option String := none
  location : Option String := none
  ipv4Address : Option String := none
  serviceLevel : Option String := none
  releaseVer : Option String := none
  createdAt : Option String := none
  updatedAt : Option String := none
  environment : Option NamedRef := none
  activationKeys : List NamedRef := []
  host : Option NamedRef := none
  guests : List NamedRef := []
  template : Option NamedRef := none
  /-- Hardware facts, free-form values in normal form. -/
  facts : Dictionary Json := []

namespace Machine

/-- The names of the fields, in their order. -/
def fieldNames : List String :=
  ["id", "uuid", "name", "description", "location", "ipv4_address", "serviceLevel", "releaseVer",
   "created_at", "updated_at", "environment", "activation_key", "host", "guests", "template",
   "facts"]

/-- Reads a machine; every field may be missing. -/
def ofJson? (value : Json) : Option Machine := do
  let fields ← fields? fieldNames value
  let text := fun name => orDefault fields name "" text?
  let optionalText := fun name => orDefault fields name none (optional? text?)
  let reference := fun name => orDefault fields name none (optional? NamedRef.ofJson?)
  let references := fun name => orDefault fields name [] (list? NamedRef.ofJson?)
  return {
    id := ← orDefault fields "id" none (optional? natural?)
    uuid := ← text "uuid"
    name := ← text "name"
    description := ← optionalText "description"
    location := ← optionalText "location"
    ipv4Address := ← optionalText "ipv4_address"
    serviceLevel := ← optionalText "serviceLevel"
    releaseVer := ← optionalText "releaseVer"
    createdAt := ← optionalText "created_at"
    updatedAt := ← optionalText "updated_at"
    environment := ← reference "environment"
    activationKeys := ← references "activation_key"
    host := ← reference "host"
    guests := ← references "guests"
    template := ← reference "template"
    facts := ← orDefault fields "facts" [] (dictionary? normal?) }

/-- Writes a machine with all its fields. -/
def toJson (s : Machine) : Json :=
  let optionalText := ofOption Json.string
  let reference := ofOption NamedRef.toJson
  .object [
    ("id", ofOption ofNat s.id),
    ("uuid", .string s.uuid),
    ("name", .string s.name),
    ("description", optionalText s.description),
    ("location", optionalText s.location),
    ("ipv4_address", optionalText s.ipv4Address),
    ("serviceLevel", optionalText s.serviceLevel),
    ("releaseVer", optionalText s.releaseVer),
    ("created_at", optionalText s.createdAt),
    ("updated_at", optionalText s.updatedAt),
    ("environment", reference s.environment),
    ("activation_key", ofList NamedRef.toJson s.activationKeys),
    ("host", reference s.host),
    ("guests", ofList NamedRef.toJson s.guests),
    ("template", reference s.template),
    ("facts", ofDictionary (fun value => value) s.facts)]

/-- The key of the texts attached to a machine: its number where it has one, else its uuid. -/
def customInfoKey (s : Machine) : String :=
  match s.id with
  | some id => Nat.repr id
  | none => s.uuid

/-- Has the record neither uuid nor name? The server sends such a record for a rejected write. -/
def isBlankRecord (s : Machine) : Bool :=
  s.uuid.isEmpty && s.name.isEmpty

end Machine

/-- Texts attached to a machine, several for each key. -/
abbrev CustomInfo := Dictionary (List String)

namespace CustomInfo

/-- Reads attached texts. -/
def ofJson? (value : Json) : Option CustomInfo :=
  dictionary? (list? text?) value

/-- Writes attached texts. -/
def toJson (info : CustomInfo) : Json :=
  ofDictionary (ofList Json.string) info

/-- Is the text attached under the key? -/
def holds (info : CustomInfo) (key value : String) : Bool :=
  match Dictionary.get? info key with
  | some values => values.contains value
  | none => false

end CustomInfo

end HostConsole
