import HostConsole.Failure
import HostConsole.Text.CommaList

/-!
# Package actions

A change to the packages of a system, selected by options of which at most one may be given.

## Main definitions

* `PackageAction`: the changes
* `PackageOptions`: the options, as they are given
* `PackageAction.ofOptions`: the action that the options select, if any
-/

namespace HostConsole

/-- A change to the packages of a system, with the names of packages or of package groups. -/
inductive PackageAction where
  | install (names : List String)
  | remove (names : List String)
  /-- No names stand for all packages. -/
  | update (names : List String)
  | installGroups (names : List String)
  | removeGroups (names : List String)
  deriving DecidableEq, Repr

/-- The options that select an action. -/
structure PackageOptions where
  install : Option (List String) := none
  remove : Option (List String) := none
  update : Option (List String) := none
  updateAll : Bool := false
  installGroups : Option (List String) := none
  removeGroups : Option (List String) := none
  deriving DecidableEq, Repr

namespace PackageAction

/-- The name of an action. -/
def label : PackageAction → String
  | install _ => "install"
  | remove _ => "remove"
  | update _ => "update"
  | installGroups _ => "install_groups"
  | removeGroups _ => "remove_groups"

/-- The names that the action is about. -/
def names : PackageAction → List String
  | install ns | remove ns | update ns | installGroups ns | removeGroups ns => ns

/-- Are the names names of package groups? -/
def targetsGroups : PackageAction → Bool
  | installGroups _ | removeGroups _ => true
  | _ => false

/-- The names that an option gives, which have to be some. -/
def someNames (label : String) (values : List String) : Except Failure (List String) :=
  let names := Text.cleanList values
  if names.isEmpty then .error (.emptyPackageList label) else .ok names

/-- How many actions the options ask for. -/
def requestCount (options : PackageOptions) : Nat :=
  [options.install.isSome, options.remove.isSome, options.update.isSome || options.updateAll,
    options.installGroups.isSome, options.removeGroups.isSome].countP fun asked => asked

/-- The action that the options select, `none` when they ask for no action. An update of all
packages takes no names. -/
def ofOptions (options : PackageOptions) : Except Failure (Option PackageAction) :=
  if 1 < requestCount options then .error .conflictingPackageActions
  else if let some values := options.install then
    (someNames "install" values).map fun names => some (install names)
  else if let some values := options.remove then
    (someNames "remove" values).map fun names => some (remove names)
  else if options.updateAll then
    if (Text.cleanList (options.update.getD [])).isEmpty then .ok (some (update []))
    else .error .updateAllWithNames
  else if let some values := options.update then
    (someNames "update" values).map fun names => some (update names)
  else if let some values := options.installGroups then
    (someNames "install_groups" values).map fun names => some (installGroups names)
  else if let some values := options.removeGroups then
    (someNames "remove_groups" values).map fun names => some (removeGroups names)
  else .ok none

end PackageAction

end HostConsole
