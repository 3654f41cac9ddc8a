import HostConsole.CommandLine.Grammar
import HostConsole.Identity

/-!
# The commands of the console

The grammar of the console's own command line.

## Main definitions

* `globalOptions`: the options that every command takes
* `serverCommands`, `configCommand`, `completionCommand`: the commands
* `console`: all of them under the console's name
-/

namespace HostConsole.CommandLine

/-- An option with one value. -/
def valued (identity long : String) : OptionRule :=
  { identity, long := some long }

/-- A switch. -/
def switch (identity long : String) : OptionRule :=
  { identity, long := some long, action := .switch, least := 0, most := 0 }

/-- The options that every command takes. -/
def globalOptions : List OptionRule :=
  [{ identity := "debug", long := some "debug", short := some 'd', action := .tally,
     least := 0, most := 0 },
   { switch "verbose" "verbose" with short := some 'v', conflicts := ["grep"] },
   { switch "grep" "grep" with short := some 'g' },
   { valued "config" "config" with kind := .path },
   valued "url" "url",
   { valued "username" "username" with short := some 'u' },
   { valued "password" "password" with short := some 'p' },
   { valued "task_timeout" "task-timeout" with kind := .natural }]

/-- The option for the organisation. -/
def orgOption : OptionRule :=
  { valued "org" "org" with short := some 'o' }

/-- The option for an environment. -/
def environmentOption : OptionRule :=
  { valued "environment" "environment" with short := some 'e' }

/-- The option for the environment that a name of a system is looked up in. -/
def lookupEnvironment : OptionRule :=
  { environmentOption with conflicts := ["uuid"] }

/-- The options for the name and the uuid of a system. -/
def systemOptions : List OptionRule :=
  [valued "name" "name", valued "uuid" "uuid"]

/-- A system is given by its name or by its uuid. -/
def systemChoice : List (List String) := [["name", "uuid"]]

/-- An option that takes values between commas. -/
def listed (identity long : String) : OptionRule :=
  { valued identity long with action := .append, splits := true }

/-- An option that has to be there. -/
def needed (rule : OptionRule) : OptionRule :=
  { rule with isRequired := true }

/-- A switch that narrows the pools that are available. -/
def poolSwitch (name : String) : OptionRule :=
  { switch name name with requires := ["available"] }

/-- A command without commands. -/
def plain (name : String) (options : List OptionRule) (choices : List (List String)) :
    CommandRule :=
  .mk { name, options := globalOptions ++ options, choices } []

/-- A command about a system, which is looked up by its name or given by its uuid. -/
def aboutSystem (name : String) (options : List OptionRule) : CommandRule :=
  plain name (orgOption :: systemOptions ++ options) systemChoice

/-- The options for package actions. -/
def packageOptions : List OptionRule :=
  [listed "install" "install",
   listed "remove" "remove",
   { listed "update" "update" with least := 0 },
   { switch "all" "all" with requires := ["update"] },
   listed "install_groups" "install_groups",
   listed "remove_groups" "remove_groups"]

/-- The commands that talk to the server. -/
def serverCommands : List CommandRule :=
  [plain "list" [orgOption, environmentOption, valued "pool_id" "pool"] [],
   aboutSystem "info" [lookupEnvironment],
   aboutSystem "packages" (lookupEnvironment :: packageOptions),
   aboutSystem "tasks" [lookupEnvironment],
   plain "task_info" [needed (valued "id" "id")] [],
   plain "releases" (orgOption :: systemOptions ++ [environmentOption])
     [["name", "uuid", "environment"]],
   aboutSystem "facts" [lookupEnvironment],
   plain "register"
     [needed (valued "name" "name"), orgOption,
      { environmentOption with conflicts := ["activationkey"] },
      valued "servicelevel" "servicelevel", listed "activationkey" "activationkey",
      valued "release" "release",
      { valued "fact" "fact" with action := .append, least := 2, most := 2 }] [],
   aboutSystem "unregister" [lookupEnvironment],
   plain "remove_deletion" [needed (valued "uuid" "uuid")] [],
   aboutSystem "subscribe"
     [needed (valued "pool" "pool"), { valued "quantity" "quantity" with kind := .quantity }],
   aboutSystem "subscriptions"
     [switch "available" "available", poolSwitch "match_system", poolSwitch "match_installed",
      poolSwitch "no_overlap"],
   plain "unsubscribe"
     (orgOption :: systemOptions ++
       [valued "entitlement" "entitlement", valued "serial" "serial", switch "all" "all"])
     (systemChoice ++ [["entitlement", "serial", "all"]]),
   aboutSystem "update"
     [lookupEnvironment, valued "new_name" "new_name",
      valued "new_environment" "new_environment", valued "description" "description",
      valued "location" "location", valued "release" "release",
      valued "servicelevel" "servicelevel"],
   plain "report" [orgOption, environmentOption, valued "format" "format"] [],
   aboutSystem "add_system_groups" [needed (listed "system_groups" "system_groups")],
   aboutSystem "remove_system_groups" [needed (listed "system_groups" "system_groups")],
   aboutSystem "add_custom_info"
     [lookupEnvironment, needed (valued "keyname" "keyname"), needed (valued "value" "value")],
   aboutSystem "view_custom_info" [lookupEnvironment, valued "keyname" "keyname"],
   aboutSystem "update_custom_info"
     [lookupEnvironment, needed (valued "keyname" "keyname"),
      needed (valued "current_value" "current-value"), needed (valued "new_value" "new-value")],
   aboutSystem "remove_custom_info"
     [lookupEnvironment, needed (valued "keyname" "keyname"), valued "value" "value"]]

/-- The command about the console's settings. -/
def configCommand : CommandRule :=
  .mk { name := "config", options := globalOptions }
    [plain "show" [] [], plain "init" [{ switch "force" "force" with short := some 'f' }] [],
     plain "path" [] []]

/-- The shells that completions can be written for. -/
def shells : List String := ["bash", "elvish", "fish", "powershell", "zsh"]

/-- The command that writes completions for a shell. -/
def completionCommand : CommandRule :=
  .mk { name := "completion", options := globalOptions,
        operands := [{ identity := "shell", kind := .oneOf shells, isRequired := true }] } []

/-- The command line of the console. -/
def console : CommandRule :=
  .mk { name := consoleName, options := globalOptions }
    (serverCommands ++ [configCommand, completionCommand])

end HostConsole.CommandLine
