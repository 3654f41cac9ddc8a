import HostConsole.Command.Session
import HostConsole.Display.Package
import HostConsole.Display.Subscription
import HostConsole.Display.Task
import HostConsole.Operation.CustomInfo
import HostConsole.Operation.Reports
import HostConsole.Operation.Systems
import HostConsole.Text.Utf8

/-!
# Commands that inspect

The commands that leave the server as it is.

## Main definitions

* `Session.list`, `Session.info`, `Session.facts`, `Session.viewCustomInfo`: systems
* `Session.tasks`, `Session.taskInfo`, `Session.releases`: tasks and releases
* `Session.subscriptions`, `Session.report`: subscriptions and reports
-/

namespace HostConsole.Session

open Program

/-- Lists systems. -/
def list (s : Session) (org environment poolId : Option String) : Prepared := do
  let org ← s.organisation org
  return do
    let found ← Systems.list org environment poolId
    showRows (Display.machines s.strategy org environment found)

/-- Shows a system. -/
def info (s : Session) (system : Selector) (environment : Option String) : Prepared := do
  let (org, reference) ← s.target system
  return do
    let found ← Systems.details org reference environment
    showRow (Display.machine s.strategy reference org environment found.machine found.customInfo)

/-- Shows the packages of a system. -/
def installedPackages (s : Session) (org : String) (reference : SystemReference)
    (environment : Option String) : Program ExitCode := do
  let machine ← Resolution.system org reference environment
  let found : List Package ← look (.packages machine.uuid)
  showRows (Display.packages s.strategy reference org environment found)

/-- Lists the tasks of a system. -/
def tasks (s : Session) (system : Selector) (environment : Option String) : Prepared := do
  let (org, reference) ← s.target system
  return do
    let found ← Systems.tasks org reference environment
    showRows (Display.tasks s.strategy found)

/-- Shows a task. -/
def taskInfo (s : Session) (id : String) : Prepared :=
  return do
    let task : Task ← look (.task id)
    showRow (Display.task s.strategy task)

/-- Where the releases of a command can be set: a uuid comes before a name and a name before an
environment. -/
def releaseSource (source : Selector) (environment : Option String) :
    Except Failure Systems.ReleaseSource :=
  match source.uuid, source.name, environment with
  | some uuid, _, _ => .ok (.system (.uuid uuid))
  | none, some name, _ => .ok (.system (.name name))
  | none, none, some name => .ok (.environment name)
  | none, none, none => .error (.usage .releaseSourceMissing)

/-- Lists releases. -/
def releases (s : Session) (source : Selector) (environment : Option String) : Prepared := do
  let org ← s.organisation source.org
  let source ← releaseSource source environment
  return do
    let found ← Systems.releases org source
    showRows (Display.releases s.strategy found)

/-- Shows the facts of a system. -/
def facts (s : Session) (system : Selector) (environment : Option String) : Prepared := do
  let (org, reference) ← s.target system
  return do
    let machine ← Resolution.system org reference environment
    showRow (Display.facts s.strategy reference org environment machine)

/-- Shows what a system consumes. -/
def currentSubscriptions (s : Session) (org : String) (reference : SystemReference) :
    Program ExitCode := do
  let uuid ← Resolution.uuid org reference
  let found : Subscriptions ← look (.subscriptions uuid)
  if found.entitlements.isEmpty then
    showLine ("No Subscriptions found for " ++ Display.systemIn reference org none)
  else showRows (Display.entitlements s.strategy reference found.entitlements)

/-- Shows what a system could consume from. -/
def availableSubscriptions (s : Session) (org : String) (reference : SystemReference)
    (filter : PoolFilter) : Program ExitCode := do
  let uuid ← Resolution.uuid org reference
  let found : Pools ← look (.pools uuid filter)
  if found.pools.isEmpty then
    showLine ("No Pools found for " ++ Display.systemIn reference org none)
  else showRows (Display.pools s.strategy reference found.pools)

/-- Shows the subscriptions of a system, or those that it could have. -/
def subscriptions (s : Session) (system : Selector) (available : Bool) (filter : PoolFilter) :
    Prepared := do
  let (org, reference) ← s.target system
  return if available then s.availableSubscriptions org reference filter
    else s.currentSubscriptions org reference

/-- Shows a report, or saves one that is no text. -/
def report (s : Session) (org environment : Option String) (format : String) : Prepared := do
  let org ← s.organisation org
  let format ← ReportFormat.ofText format
  return do
    let report ← Report.fetch org environment format
    if format.isAttachment then
      let path ← report.store s.reportDirectory
      succeed ("Report saved to " ++ path)
    else showLine (Utf8.textLossy report.body)

/-- Shows the texts attached to a system. -/
def viewCustomInfo (s : Session) (system : Selector) (environment key : Option String) :
    Prepared := do
  let (org, reference) ← s.target system
  return do
    let machine ← Resolution.system org reference environment
    let found ← CustomInfo.view machine key
    showRow (Display.attachedTexts s.strategy reference org environment found)

end HostConsole.Session
