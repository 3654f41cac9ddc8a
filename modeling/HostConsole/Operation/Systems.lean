import HostConsole.Operation.Resolution

/-!
# Systems

Listing, inspecting, registering and changing systems.

## Main definitions

* `Systems.list`, `Systems.details`, `Systems.tasks`, `Systems.releases`: what is known of systems
* `Systems.register`, `Systems.update`, `Systems.unregister`: changes
-/

namespace HostConsole.Systems

open Program

/-- The systems of an environment, or of the organisation, perhaps only those that use a pool. -/
def list (org : String) (environment poolId : Option String) : Program (List Machine) := do
  let query : SystemQuery := { poolId }
  match environment with
  | some name =>
    let place ← Resolution.environment org (some name)
    look (.systemsOfEnvironment place.id query)
  | none => look (.systemsOfOrganisation org query)

/-- A system with the texts attached to it. -/
structure Details where
  machine : Machine
  customInfo : CustomInfo

/-- A system with the texts attached to it. -/
def details (org : String) (reference : SystemReference) (environment : Option String) :
    Program Details := do
  let machine ← Resolution.system org reference environment
  let customInfo : CustomInfo ← look (.customInfo machine.customInfoKey none)
  return { machine, customInfo }

/-- The tasks of a system in an environment, or in the library. -/
def tasks (org : String) (reference : SystemReference) (environment : Option String) :
    Program (List Task) := do
  let place ← Resolution.environment org environment
  let filter : TaskFilter :=
    { environmentId := some place.id
      systemName := reference.name?
      systemUuid := reference.uuid? }
  look (.tasks org filter)

/-- Where releases can be set. -/
inductive ReleaseSource where
  | system (reference : SystemReference)
  | environment (name : String)
  deriving DecidableEq, Repr

/-- The releases that can be set. -/
def releases (org : String) (source : ReleaseSource) : Program (List String) := do
  let found : Releases ← match source with
    | .system (.uuid uuid) =>
      look (.releasesOfSystem uuid) (some (.systemNotFound (.uuid uuid) org))
    | .system reference => do
      let machine ← Resolution.system org reference none
      look (.releasesOfSystem machine.uuid)
    | .environment name => do
      let place ← Resolution.environment org (some name)
      look (.releasesOfEnvironment place.id)
  return found.releases

/-- The record that the server has behind a write; a missing or blank one says that the write was
rejected. -/
def confirmed (record : Option Machine) (action name : String) : Except Failure Machine :=
  match record with
  | some machine =>
    if machine.isBlankRecord then .error (.recordRejected action name) else .ok machine
  | none => .error (.recordRejected action name)

/-- The number of an environment, where one is named. -/
def environmentId (org : String) (environment : Option String) : Program (Option Nat) :=
  match environment with
  | some name => return some (← Resolution.environment org (some name)).id
  | none => return none

/-- A system that a user wants to register. -/
structure RegisterRequest where
  name : String
  org : String
  environment : Option String := none
  activationKeys : List String := []
  release : Option String := none
  serviceLevel : Option String := none
  facts : Dictionary String := []
  deriving DecidableEq, Repr

/-- Registers a system. -/
def register (request : RegisterRequest) : Program Machine := do
  let environmentId ← environmentId request.org request.environment
  let record : Option Machine ← change <| .register
    { name := request.name
      org := request.org
      environmentId
      activationKeys := request.activationKeys
      consumerType := Registration.systemType
      release := request.release
      serviceLevel := request.serviceLevel
      facts := request.facts }
  require (confirmed record "register" request.name)

/-- Unregisters a system. The result is its record. -/
def unregister (org : String) (reference : SystemReference) (environment : Option String) :
    Program Machine := do
  let machine ← Resolution.system org reference environment
  let _ : Unit ← change (.unregister machine.uuid)
  return machine

/-- What a user wants to be different about a system. -/
structure Changes where
  name : Option String := none
  environment : Option String := none
  description : Option String := none
  location : Option String := none
  release : Option String := none
  serviceLevel : Option String := none
  deriving DecidableEq, Repr

/-- Changes a system. The result is its record as it was before. -/
def update (org : String) (reference : SystemReference) (environment : Option String)
    (changes : Changes) : Program Machine := do
  let machine ← Resolution.system org reference environment
  let environmentId ← environmentId org changes.environment
  let record : Option Machine ← change <| .update machine.uuid
    { name := changes.name
      description := changes.description
      location := changes.location
      release := changes.release
      serviceLevel := changes.serviceLevel
      environmentId }
  let _ ← require (confirmed record "update" machine.name)
  return machine

end HostConsole.Systems
