import HostConsole.Operation.Systems

/-!
# Membership

A system joins and leaves groups. The system and every named group have to be there before
anything is changed.

## Main definitions

* `Membership.groupIds`: the numbers of some groups
* `Membership.join`, `Membership.leave`: the changes
-/

namespace HostConsole.Membership

open Program

/-- The names that no group bears. -/
def missingNames (groups : List SystemGroup) (names : List String) : List String :=
  names.filter fun name => !groups.any fun group => group.name == name

/-- The numbers of the groups that a listing gave for some names, each of which has to be among
them. -/
def numbersOf (groups : List SystemGroup) (names : List String) (org : String) :
    Except Failure (List Nat) :=
  let missing := missingNames groups names
  if groups.isEmpty ∨ !missing.isEmpty then
    let named := if missing.isEmpty then names else missing
    .error (.systemGroupNotFound (String.intercalate ", " named) org)
  else .ok (groups.map (·.id))

/-- The numbers of some groups. -/
def groupIds (org : String) (names : List String) : Program (List Nat) := do
  let groups : List SystemGroup ← look (.systemGroups org names)
  require (numbersOf groups names org)

/-- The record behind a change of groups. -/
def confirmed (record : Option Machine) (machine : Machine) : Except Failure Machine :=
  Systems.confirmed record "change groups of" machine.name

/-- The system joins the groups. The result is its record. -/
def join (org : String) (reference : SystemReference) (names : List String) :
    Program Machine := do
  let machine ← Resolution.listedSystem org reference
  let groups ← groupIds org names
  let record : Option Machine ← change (.addSystemGroups machine.uuid groups)
  require (confirmed record machine)

/-- The system leaves the groups. The result is its record. -/
def leave (org : String) (reference : SystemReference) (names : List String) :
    Program Machine := do
  let machine ← Resolution.listedSystem org reference
  let groups ← groupIds org names
  let record : Option Machine ← change (.removeSystemGroups machine.uuid groups)
  require (confirmed record machine)

end HostConsole.Membership
