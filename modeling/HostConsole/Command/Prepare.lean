import HostConsole.Command.Alteration

/-!
# Preparing commands

## Main definitions

* `ServerCommand.prepare`, `Command.prepare`: the program of a command, when its options are in
  order
-/

namespace HostConsole

/-- The program of a command that talks to the server, when its options are in order. -/
def ServerCommand.prepare (s : Session) : ServerCommand → Prepared
  | .list org environment poolId => s.list org environment poolId
  | .info system environment => s.info system environment
  | .packages system environment options => s.packages system environment options
  | .tasks system environment => s.tasks system environment
  | .taskInfo id => s.taskInfo id
  | .releases source environment => s.releases source environment
  | .facts system environment => s.facts system environment
  | .register name org environment serviceLevel activationKeys release factPairs =>
    s.register name org environment serviceLevel activationKeys release factPairs
  | .unregister system environment => s.unregister system environment
  | .removeDeletion uuid => Session.removeDeletion uuid
  | .subscribe system pool quantity => s.subscribe system pool quantity
  | .subscriptions system available filter => s.subscriptions system available filter
  | .unsubscribe system entitlement serial all => s.unsubscribe system entitlement serial all
  | .update system environment name newEnvironment description location release serviceLevel =>
    s.update system environment
      { name, environment := newEnvironment, description, location, release, serviceLevel }
  | .report org environment format => s.report org environment format
  | .addSystemGroups system groups => s.systemGroups system groups true
  | .removeSystemGroups system groups => s.systemGroups system groups false
  | .addCustomInfo system environment key value => s.addCustomInfo system environment key value
  | .viewCustomInfo system environment key => s.viewCustomInfo system environment key
  | .updateCustomInfo system environment key current new =>
    s.updateCustomInfo system environment key current new
  | .removeCustomInfo system environment key value =>
    s.removeCustomInfo system environment key value

/-- The program of a command, when its options are in order. Only some commands have one. -/
def Command.prepare (s : Session) : Command → Prepared
  | .server command => command.prepare s
  | .config _ | .completion _ => .error (.usage .noServerNeeded)

end HostConsole
