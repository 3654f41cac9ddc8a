import HostConsole.Program.Basic

/-!
# Resolution

Users point at environments and systems by name, the server knows them by number and by uuid. A
name that is not there, or that several systems bear, ends a program before it changes anything.

## Main definitions

* `Resolution.environment`: the environment of a name
* `Resolution.system`: the full record of a system
* `Resolution.listedSystem`: the record of a system in the listing of its organisation
* `Resolution.uuid`: the uuid of a system
-/

namespace HostConsole.Resolution

open Program

/-- The name of the environment that is meant where none is named. -/
def libraryName : String := "Library"

/-- The environment of a name, or the library. The first one found counts. -/
def environment (org : String) (name : Option String) : Program Environment := do
  let missing : Failure := .environmentNotFound (name.getD libraryName) org
  let found : List Environment ← look (.environments org name) missing
  match found with
  | first :: _ => return first
  | [] => fail missing

/-- The only one of some systems that a reference led to. -/
def exactlyOne (found : List Machine) (reference : SystemReference) (org : String) :
    Except Failure Machine :=
  match found with
  | [] => .error (.systemNotFound reference org)
  | [only] => .ok only
  | several => .error (.ambiguousSystem reference org several.length)

/-- The full record of a system. A uuid leads to it at once; a name is looked for in the
environment, or in the organisation where no environment is given. -/
def system (org : String) (reference : SystemReference) (inEnvironment : Option String) :
    Program Machine := do
  let missing : Failure := .systemNotFound reference org
  match reference with
  | .uuid uuid => look (.system uuid) missing
  | .name name =>
    let query : SystemQuery := { name := some name }
    let found : List Machine ← match inEnvironment with
      | some place => do
        let place ← environment org (some place)
        look (.systemsOfEnvironment place.id query) missing
      | none => look (.systemsOfOrganisation org query) missing
    let only ← require (exactlyOne found reference org)
    look (.system only.uuid) missing

/-- The record of a system in the listing of its organisation. -/
def listedSystem (org : String) (reference : SystemReference) : Program Machine := do
  let query : SystemQuery := { name := reference.name?, uuid := reference.uuid? }
  let found : List Machine ←
    look (.systemsOfOrganisation org query) (some (.systemNotFound reference org))
  require (exactlyOne found reference org)

/-- The uuid of a system. One that the user gave is not looked up. -/
def uuid (org : String) (reference : SystemReference) : Program String :=
  match reference with
  | .uuid uuid => return uuid
  | .name _ => return (← system org reference none).uuid

end HostConsole.Resolution
