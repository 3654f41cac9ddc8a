import HostConsole.CommandLine.Commands
import HostConsole.CommandLine.Reading
import HostConsole.PackageAction
import HostConsole.Server.Query

/-!
# Invocations

What a command line asks the console to do, as data.

## Main definitions

* `Globals`: the options of every command
* `Selector`, `ServerCommand`, `ConfigCommand`, `Command`: the commands with their options
* `Invocation`: a command with the global options, read by `Invocation.ofArguments`
-/

namespace HostConsole

open CommandLine

/-- The options of every command. -/
structure Globals where
  debug : Nat := 0
  verbose : Bool := false
  grep : Bool := false
  config : Option String := none
  url : Option String := none
  username : Option String := none
  password : Option String := none
  /-- In seconds. -/
  taskTimeout : Option Nat := none
  deriving DecidableEq, Repr

/-- The organisation and the system that a command is about. -/
structure Selector where
  org : Option String := none
  name : Option String := none
  uuid : Option String := none
  deriving DecidableEq, Repr

/-- The commands that talk to the server. -/
inductive ServerCommand where
  | list (org environment poolId : Option String)
  | info (system : Selector) (environment : Option String)
  | packages (system : Selector) (environment : Option String) (options : PackageOptions)
  | tasks (system : Selector) (environment : Option String)
  | taskInfo (id : String)
  | releases (source : Selector) (environment : Option String)
  | facts (system : Selector) (environment : Option String)
  | register (name : String) (org environment serviceLevel : Option String)
      (activationKeys : List String) (release : Option String) (facts : List String)
  | unregister (system : Selector) (environment : Option String)
  | removeDeletion (uuid : String)
  | subscribe (system : Selector) (pool : String) (quantity : Nat)
  | subscriptions (system : Selector) (available : Bool) (filter : PoolFilter)
  | unsubscribe (system : Selector) (entitlement serial : Option String) (all : Bool)
  | update (system : Selector) (environment newName newEnvironment description location release
      serviceLevel : Option String)
  | report (org environment : Option String) (format : String)
  | addSystemGroups (system : Selector) (groups : List String)
  | removeSystemGroups (system : Selector) (groups : List String)
  | addCustomInfo (system : Selector) (environment : Option String) (key value : String)
  | viewCustomInfo (system : Selector) (environment key : Option String)
  | updateCustomInfo (system : Selector) (environment : Option String)
      (key current new : String)
  | removeCustomInfo (system : Selector) (environment : Option String) (key : String)
      (value : Option String)
  deriving DecidableEq, Repr

/-- The commands about the console's settings. -/
inductive ConfigCommand where
  | display
  | init (force : Bool)
  | locate
  deriving DecidableEq, Repr

/-- The commands. -/
inductive Command where
  | server (command : ServerCommand)
  | config (command : ConfigCommand)
  | completion (shell : String)
  deriving DecidableEq, Repr

/-- A command with the global options. -/
structure Invocation where
  globals : Globals
  command : Command
  deriving DecidableEq, Repr

namespace CommandLine

namespace Found

/-- The value of an option. -/
def value? (found : Found) (identity : String) : Option String :=
  (found.values identity).head?

/-- The value of an option that has to be there. -/
def value (found : Found) (identity : String) : String :=
  (found.value? identity).getD ""

/-- The values of an option, when it was given. -/
def values? (found : Found) (identity : String) : Option (List String) :=
  if found.has identity then some (found.values identity) else none

/-- The organisation and the system that were given. -/
def selector (found : Found) : Selector :=
  { org := found.value? "org", name := found.value? "name", uuid := found.value? "uuid" }

/-- The options for package actions that were given. -/
def packageOptions (found : Found) : PackageOptions :=
  { install := found.values? "install"
    remove := found.values? "remove"
    update := found.values? "update"
    updateAll := found.has "all"
    installGroups := found.values? "install_groups"
    removeGroups := found.values? "remove_groups" }

/-- The filter of pools that was given. -/
def poolFilter (found : Found) : PoolFilter :=
  { matchSystem := found.has "match_system"
    matchInstalled := found.has "match_installed"
    noOverlap := found.has "no_overlap" }

end Found

/-- The server command of a name, with what was found at it. -/
def serverCommand? (name : String) (found : Found) : Option ServerCommand :=
  let value? := found.value?
  let value := found.value
  let system := found.selector
  let environment := value? "environment"
  match name with
  | "list" => some (.list (value? "org") environment (value? "pool_id"))
  | "info" => some (.info system environment)
  | "packages" => some (.packages system environment found.packageOptions)
  | "tasks" => some (.tasks system environment)
  | "task_info" => some (.taskInfo (value "id"))
  | "releases" => some (.releases system environment)
  | "facts" => some (.facts system environment)
  | "register" => some (.register (value "name") (value? "org") environment
      (value? "servicelevel") (found.values "activationkey") (value? "release")
      (found.values "fact"))
  | "unregister" => some (.unregister system environment)
  | "remove_deletion" => some (.removeDeletion (value "uuid"))
  | "subscribe" => some (.subscribe system (value "pool")
      (((value? "quantity").bind quantity?).getD 1))
  | "subscriptions" => some (.subscriptions system (found.has "available") found.poolFilter)
  | "unsubscribe" => some (.unsubscribe system (value? "entitlement") (value? "serial")
      (found.has "all"))
  | "update" => some (.update system environment (value? "new_name") (value? "new_environment")
      (value? "description") (value? "location") (value? "release") (value? "servicelevel"))
  | "report" => some (.report (value? "org") environment ((value? "format").getD "text"))
  | "add_system_groups" => some (.addSystemGroups system (found.values "system_groups"))
  | "remove_system_groups" => some (.removeSystemGroups system (found.values "system_groups"))
  | "add_custom_info" => some (.addCustomInfo system environment (value "keyname")
      (value "value"))
  | "view_custom_info" => some (.viewCustomInfo system environment (value? "keyname"))
  | "update_custom_info" => some (.updateCustomInfo system environment (value "keyname")
      (value "current_value") (value "new_value"))
  | "remove_custom_info" => some (.removeCustomInfo system environment (value "keyname")
      (value? "value"))
  | _ => none

/-- The command that the levels below the console's name give. -/
def command? : List (String × Found) → Option Command
  | [(name, found)] =>
    if name = "completion" then some (.completion (found.value "shell"))
    else (serverCommand? name found).map .server
  | [("config", _), ("show", _)] => some (.config .display)
  | [("config", _), ("init", found)] => some (.config (.init (found.has "force")))
  | [("config", _), ("path", _)] => some (.config .locate)
  | _ => none

/-- A global option as it counts: from the last command at which it was given. -/
def globalFound (levels : List (String × Found)) (identity : String) : Found :=
  match levels.reverse.find? fun level => level.2.has identity with
  | some level => level.2.filter fun entry => entry.1 == identity
  | none => []

/-- The count of an option goes up to 255. -/
def largestTally : Nat := 255

/-- The global options. -/
def globalsOf (levels : List (String × Found)) : Globals :=
  let value? := fun identity => (globalFound levels identity).value? identity
  let has := fun identity => (globalFound levels identity).has identity
  { debug := min largestTally ((globalFound levels "debug").count "debug")
    verbose := has "verbose"
    grep := has "grep"
    config := value? "config"
    url := value? "url"
    username := value? "username"
    password := value? "password"
    taskTimeout := (value? "task_timeout").bind (typedNatural? bound64) }

end CommandLine

/-- The invocation that the arguments of a command line ask for. -/
def Invocation.ofArguments (arguments : List String) : Except Rejection Invocation := do
  let levels ← CommandLine.read console arguments
  match command? levels.tail with
  | some command => return { globals := globalsOf levels, command }
  | none => throw .missingSubcommand

end HostConsole
