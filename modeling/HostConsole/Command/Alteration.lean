import HostConsole.Command.Inspection
import HostConsole.Operation.Membership

/-!
# Commands that change

The commands that ask the server for a change. Each asks for at most one.

## Main definitions

* `Session.packages`: the packages of a system, shown or changed
* `Session.register`, `Session.unregister`, `Session.removeDeletion`, `Session.update`: systems
* `Session.subscribe`, `Session.unsubscribe`: subscriptions
* `Session.systemGroups`: groups
* `Session.addCustomInfo`, `Session.updateCustomInfo`, `Session.removeCustomInfo`: attached texts
-/

namespace HostConsole.Session

open Program

/-- Starts a change to the packages of a system and waits for its end. -/
def performAction (s : Session) (uuid : String) (action : PackageAction) : Program ExitCode := do
  let task : Task ← change (.packageAction uuid action)
  say (.line ("Performing remote action [ " ++ task.uuid ++ " ]... "))
  let ended ← waitFor task.uuid s.polling
  if ended.state.succeeded then
    say (.success "Remote action finished:")
    showLine ended.resultDescription
  else
    say (.failure "Remote action failed:")
    say (.line ended.resultDescription)
    return .badData

/-- Changes the packages of a system, or shows them where no change is asked for. -/
def packages (s : Session) (system : Selector) (environment : Option String)
    (options : PackageOptions) : Prepared := do
  let (org, reference) ← s.target system
  match ← PackageAction.ofOptions options with
  | none => return s.installedPackages org reference environment
  | some action =>
    return do
      let machine ← Resolution.system org reference environment
      s.performAction machine.uuid action

/-- Registers a system. -/
def register (s : Session) (name : String) (org environment serviceLevel : Option String)
    (activationKeys : List String) (release : Option String) (facts : List String) :
    Prepared := do
  let org ← s.organisation org
  return do
    let _ ← Systems.register
      { name, org, environment, release, serviceLevel
        activationKeys := Text.cleanList activationKeys
        facts := Dictionary.ofList (Text.pairs facts) }
    succeed ("Successfully registered system [ " ++ name ++ " ]")

/-- The name by which a system is told of: its own one, or the reference where it has none. -/
def shownName (machine : Machine) (reference : SystemReference) : String :=
  if machine.name = "" then reference.text else machine.name

/-- Unregisters a system. -/
def unregister (s : Session) (system : Selector) (environment : Option String) : Prepared := do
  let (org, reference) ← s.target system
  return do
    let removed ← Systems.unregister org reference environment
    succeed ("Successfully unregistered System [ " ++ shownName removed reference ++ " ]")

/-- Drops the record that the server keeps of a system that was removed. -/
def removeDeletion (uuid : String) : Prepared :=
  return do
    let _ : Unit ← change (.removeDeletionRecord uuid)
    succeed
      ("Successfully removed deletion record for hypervisor with uuid [ " ++ uuid ++ " ]")

/-- Lets a system consume from a pool. -/
def subscribe (s : Session) (system : Selector) (pool : String) (quantity : Nat) : Prepared := do
  let (org, reference) ← s.target system
  return do
    let uuid ← Resolution.uuid org reference
    let _ : Unit ← change (.subscribe uuid pool quantity)
    succeed ("Successfully subscribed System [ " ++ reference.text ++ " ]")

/-- What a system is to give back: all comes before a serial and a serial before an
entitlement. -/
def unsubscribeTarget (entitlement serial : Option String) (all : Bool) :
    Except Failure UnsubscribeTarget :=
  match all, serial, entitlement with
  | true, _, _ => .ok .all
  | false, some serial, _ => .ok (.serial serial)
  | false, none, some id => .ok (.entitlement id)
  | false, none, none => .error (.usage .unsubscribeTargetMissing)

/-- Lets a system give back subscriptions. -/
def unsubscribe (s : Session) (system : Selector) (entitlement serial : Option String)
    (all : Bool) : Prepared := do
  let what ← unsubscribeTarget entitlement serial all
  let (org, reference) ← s.target system
  return do
    let uuid ← Resolution.uuid org reference
    let _ : Unit ← change (.unsubscribe uuid what)
    succeed ("Successfully unsubscribed System [ " ++ reference.text ++ " ]")

/-- Changes a system. -/
def update (s : Session) (system : Selector) (environment : Option String)
    (changes : Systems.Changes) : Prepared := do
  let (org, reference) ← s.target system
  return do
    let before ← Systems.update org reference environment changes
    succeed ("Successfully updated system [ " ++ before.name ++ " ]")

/-- The names of groups, of which there has to be one. -/
def groupNames (values : List String) : Except Failure (List String) :=
  let names := Text.cleanList values
  if names.isEmpty then .error (.usage .groupNamesMissing) else .ok names

/-- Lets a system join groups or leave them. -/
def systemGroups (s : Session) (system : Selector) (groups : List String) (joins : Bool) :
    Prepared := do
  let (org, reference) ← s.target system
  let names ← groupNames groups
  return if joins then do
      let updated ← Membership.join org reference names
      succeed ("Successfully added system groups to system [ " ++ updated.name ++ " ]")
    else do
      let updated ← Membership.leave org reference names
      succeed ("Successfully removed system groups from system [ " ++ updated.name ++ " ]")

/-- Attaches a text to a system. -/
def addCustomInfo (s : Session) (system : Selector) (environment : Option String)
    (key value : String) : Prepared := do
  let (org, reference) ← s.target system
  return do
    let machine ← Resolution.system org reference environment
    let what := " Custom Information [ " ++ key ++ " : " ++ value ++ " ] to System [ " ++
      reference.text ++ " ]"
    if ← CustomInfo.add machine key value then succeed ("Successfully added" ++ what)
    else disappoint ("Could not add" ++ what)

/-- Puts a text in place of another one attached to a system. -/
def updateCustomInfo (s : Session) (system : Selector) (environment : Option String)
    (key current new : String) : Prepared := do
  let (org, reference) ← s.target system
  return do
    let machine ← Resolution.system org reference environment
    let what := " Custom Information for System [ " ++ reference.text ++ " ]"
    if ← CustomInfo.update machine key current new then
      succeed ("Successfully updated" ++ what)
    else disappoint ("Could not update" ++ what)

/-- Removes a text attached to a system, or all texts under a key. -/
def removeCustomInfo (s : Session) (system : Selector) (environment : Option String)
    (key : String) (value : Option String) : Prepared := do
  let (org, reference) ← s.target system
  return do
    let machine ← Resolution.system org reference environment
    let what := " Custom Information from System [ " ++ reference.text ++ " ]"
    if ← CustomInfo.remove machine key value then succeed ("Successfully removed" ++ what)
    else disappoint ("Could not remove" ++ what)

end HostConsole.Session
