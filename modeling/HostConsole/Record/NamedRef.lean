import HostConsole.Json.Shape

/-!
# Environments, groups and references

The small records that name something: a reference to another record, an environment of an
organisation, a group of systems.

## Main definitions

* `NamedRef`, `Environment`, `SystemGroup`: the records
* `ofJson?` and `toJson` of each: reading and writing
-/

namespace HostConsole

open Json

/-- A reference to another record by name. -/
structure NamedRef where
  id : Option Nat
  name : String
  deriving DecidableEq, Repr

namespace NamedRef

/-- Reads a reference. -/
def ofJson? (value : Json) : Option NamedRef := do
  let fields ← fields? ["id", "name"] value
  return {
    id := ← orDefault fields "id" none (optional? natural?)
    name := ← required fields "name" text? }

/-- Writes a reference. -/
def toJson (r : NamedRef) : Json :=
  .object [("id", ofOption ofNat r.id), ("name", .string r.name)]

end NamedRef

/-- A lifecycle environment of an organisation. -/
structure Environment where
  id : Nat
  name : String
  library : Bool
  deriving DecidableEq, Repr

namespace Environment

/-- Reads an environment. -/
def ofJson? (value : Json) : Option Environment := do
  let fields ← fields? ["id", "name", "library"] value
  return {
    id := ← required fields "id" natural?
    name := ← required fields "name" text?
    library := ← orDefault fields "library" false flag? }

/-- Writes an environment. -/
def toJson (e : Environment) : Json :=
  .object [("id", ofNat e.id), ("name", .string e.name), ("library", .bool e.library)]

end Environment

/-- A group of systems. -/
structure SystemGroup where
  id : Nat
  name : String
  deriving DecidableEq, Repr

namespace SystemGroup

/-- Reads a group. -/
def ofJson? (value : Json) : Option SystemGroup := do
  let fields ← fields? ["id", "name"] value
  return {
    id := ← required fields "id" natural?
    name := ← required fields "name" text? }

/-- Writes a group. -/
def toJson (g : SystemGroup) : Json :=
  .object [("id", ofNat g.id), ("name", .string g.name)]

end SystemGroup

end HostConsole
