import HostConsole.Json.Shape

/-!
# Registrations and updates

What the server is told about a system: all of it when the system is registered, and what is to
be different when it is updated.

## Main definitions

* `Registration`: a system that is to be registered
* `SystemUpdate`: what is to be different about a system
* `Registration.body`, `SystemUpdate.body`: what is sent of them
-/

namespace HostConsole

open Json

/-- A field for a text, left out where there is none. -/
def textField (key : String) (value : Option String) : List (String × Json) :=
  (value.map fun s => (key, Json.string s)).toList

/-- A field for a number, left out where there is none. -/
def numberField (key : String) (value : Option Nat) : List (String × Json) :=
  (value.map fun n => (key, ofNat n)).toList

/-- A field for some texts, left out where there are none. -/
def textsField (key : String) (values : List String) : List (String × Json) :=
  if values.isEmpty then [] else [(key, ofList Json.string values)]

/-- A system that is to be registered. -/
structure Registration where
  name : String
  org : String
  environmentId : Option Nat := none
  activationKeys : List String := []
  consumerType : String
  release : Option String := none
  serviceLevel : Option String := none
  facts : Dictionary String := []
  deriving DecidableEq, Repr

namespace Registration

/-- The type of consumer that a system is. -/
def systemType : String := "system"

/-- What is sent of a registration. The organisation is part of the resource instead. -/
def body (r : Registration) : Json :=
  .object <| Dictionary.ofList <|
    [("name", .string r.name), ("cType", .string r.consumerType),
      ("facts", ofDictionary Json.string r.facts)] ++
    numberField "environment_id" r.environmentId ++
    textsField "activation_keys" r.activationKeys ++
    textField "releaseVer" r.release ++
    textField "serviceLevel" r.serviceLevel

end Registration

/-- What is to be different about a system; what is not given stays as it is. -/
structure SystemUpdate where
  name : Option String := none
  description : Option String := none
  location : Option String := none
  release : Option String := none
  serviceLevel : Option String := none
  environmentId : Option Nat := none
  deriving DecidableEq, Repr

/-- What is sent of an update. -/
def SystemUpdate.body (u : SystemUpdate) : Json :=
  .object [("system", .object <| Dictionary.ofList <|
    textField "name" u.name ++
    textField "description" u.description ++
    textField "location" u.location ++
    textField "releaseVer" u.release ++
    textField "serviceLevel" u.serviceLevel ++
    numberField "environment_id" u.environmentId)]

end HostConsole
