import HostConsole.PackageAction
import HostConsole.Record.Machine
import HostConsole.Record.Package
import HostConsole.Record.Subscription
import HostConsole.Record.Task
import HostConsole.Report
import HostConsole.Server.Registration
import HostConsole.Server.Request

/-!
# Calls

Everything that the console can ask of the server. Lookups leave the server as it is; changes do
not.

## Main definitions

* `Lookup`, `Change`, `Call`: the calls
* `Lookup.request`, `Change.request`, `Call.request`: the request of a call
* `Call.Answer`: what the server tells when the call succeeds
-/

namespace HostConsole

open Json

/-- What a report is about. -/
inductive ReportScope where
  | organisation (org : String)
  | environment (id : Nat)
  deriving DecidableEq, Repr

/-- What a system is to give back of its subscriptions. -/
inductive UnsubscribeTarget where
  | all
  | serial (serial : String)
  | entitlement (id : String)
  deriving DecidableEq, Repr

/-- The calls that leave the server as it is. -/
inductive Lookup where
  /-- The environments of a name, or the library. -/
  | environments (org : String) (name : Option String)
  | systemsOfOrganisation (org : String) (query : SystemQuery)
  | systemsOfEnvironment (environment : Nat) (query : SystemQuery)
  | system (uuid : String)
  | releasesOfSystem (uuid : String)
  | releasesOfEnvironment (environment : Nat)
  | packages (uuid : String)
  | task (id : String)
  | tasks (org : String) (filter : TaskFilter)
  | subscriptions (uuid : String)
  | pools (uuid : String) (filter : PoolFilter)
  | report (scope : ReportScope) (format : ReportFormat)
  | systemGroups (org : String) (names : List String)
  /-- All texts attached to a system, or those under one key. -/
  | customInfo (owner : String) (key : Option String)
  deriving DecidableEq, Repr

/-- The calls that change something at the server. -/
inductive Change where
  | register (registration : Registration)
  | unregister (uuid : String)
  /-- Drops the record that the server keeps of a system that was removed. -/
  | removeDeletionRecord (uuid : String)
  | update (uuid : String) (update : SystemUpdate)
  | packageAction (uuid : String) (action : PackageAction)
  | subscribe (uuid pool : String) (quantity : Nat)
  | unsubscribe (uuid : String) (target : UnsubscribeTarget)
  | addSystemGroups (uuid : String) (groups : List Nat)
  | removeSystemGroups (uuid : String) (groups : List Nat)
  | addCustomInfo (owner key value : String)
  | updateCustomInfo (owner key current new : String)
  | removeCustomInfo (owner key : String) (value : Option String)
  deriving DecidableEq, Repr

/-- The calls. -/
inductive Call where
  | lookup (lookup : Lookup)
  | change (change : Change)
  deriving DecidableEq, Repr

namespace Lookup

/-- The segments of the systems within a scope. -/
def scopeSegments : ReportScope → List String
  | .organisation org => ["organizations", org, "systems"]
  | .environment id => ["environments", Nat.repr id, "systems"]

/-- The request of a lookup. -/
def request : Lookup → Request
  | environments org name =>
    .look ["organizations", org, "environments"] <| match name with
      | some name => [("name", name)]
      | none => [("library", "true")]
  | systemsOfOrganisation org query => .look ["organizations", org, "systems"] query.pairs
  | systemsOfEnvironment environment query =>
    .look ["environments", Nat.repr environment, "systems"] query.pairs
  | system uuid => .look ["systems", uuid]
  | releasesOfSystem uuid => .look ["systems", uuid, "releases"]
  | releasesOfEnvironment environment =>
    .look ["environments", Nat.repr environment, "releases"]
  | packages uuid => .look ["systems", uuid, "packages"]
  | task id => .look ["systems", "tasks", id]
  | tasks org filter => .look ["organizations", org, "systems", "tasks"] filter.pairs
  | subscriptions uuid => .look ["systems", uuid, "subscriptions"]
  | pools uuid filter => .look ["systems", uuid, "pools"] filter.pairs
  | report scope format =>
    { method := .get, segments := scopeSegments scope ++ ["report"], accept := format.mediaType }
  | systemGroups org names =>
    .look ["organizations", org, "system_groups"] [("name", String.intercalate "," names)]
  | customInfo owner key => .look (["custom_info", "system", owner] ++ key.toList)

/-- What a lookup tells. -/
def Answer : Lookup → Type
  | environments .. => List Environment
  | systemsOfOrganisation .. | systemsOfEnvironment .. => List Machine
  | system _ => Machine
  | releasesOfSystem _ | releasesOfEnvironment _ => Releases
  | packages _ => List Package
  | task _ => Task
  | tasks .. => List Task
  | subscriptions _ => Subscriptions
  | pools .. => Pools
  | report .. => Report
  | systemGroups .. => List SystemGroup
  | customInfo .. => CustomInfo

end Lookup

namespace Change

/-- The method of a package action. -/
def actionMethod : PackageAction → Method
  | .install _ | .installGroups _ => .post
  | .remove _ | .removeGroups _ => .delete
  | .update _ => .put

/-- What is sent of a package action. -/
def actionBody (action : PackageAction) : Json :=
  .object [(if action.targetsGroups then "groups" else "packages",
    ofList Json.string action.names)]

/-- What is sent about the groups of a system. -/
def groupsBody (groups : List Nat) : Json :=
  .object [("system", .object [("system_group_ids", ofList ofNat groups)])]

/-- The segments of what a system is to give back. -/
def targetSegments : UnsubscribeTarget → List String
  | .all => []
  | .serial serial => ["serials", serial]
  | .entitlement id => [id]

/-- The request of a change. -/
def request : Change → Request
  | register registration =>
    .change .post ["organizations", registration.org, "systems"] (some registration.body)
  | unregister uuid => .change .delete ["systems", uuid]
  | removeDeletionRecord uuid => .change .delete ["consumers", uuid, "deletionrecord"]
  | update uuid u => .change .put ["systems", uuid] (some u.body)
  | packageAction uuid action =>
    .change (actionMethod action) ["systems", uuid, "packages"] (some (actionBody action))
  | subscribe uuid pool quantity =>
    .change .post ["systems", uuid, "subscriptions"]
      (some (.object [("pool", .string pool), ("quantity", ofNat quantity)]))
  | unsubscribe uuid target =>
    .change .delete (["systems", uuid, "subscriptions"] ++ targetSegments target)
  | addSystemGroups uuid groups =>
    .change .post ["systems", uuid, "system_groups"] (some (groupsBody groups))
  | removeSystemGroups uuid groups =>
    .change .delete ["systems", uuid, "system_groups"] (some (groupsBody groups))
  | addCustomInfo owner key value =>
    .change .post ["custom_info", "system", owner]
      (some (.object [("keyname", .string key), ("value", .string value)]))
  | updateCustomInfo owner key current new =>
    .change .put ["custom_info", "system", owner, key, current]
      (some (.object [("value", .string new)]))
  | removeCustomInfo owner key value =>
    .change .delete (["custom_info", "system", owner, key] ++ value.toList)

/-- What a change tells. A write of a record tells the record, if the server has one. -/
def Answer : Change → Type
  | register _ | update .. | addSystemGroups .. | removeSystemGroups .. => Option Machine
  | unregister _ | removeDeletionRecord _ | subscribe .. | unsubscribe .. => Unit
  | packageAction .. => Task
  | addCustomInfo .. | updateCustomInfo .. => CustomInfo
  | removeCustomInfo .. => Bool

end Change

namespace Call

/-- The request of a call. -/
def request : Call → Request
  | lookup l => l.request
  | change c => c.request

/-- What the server tells when the call succeeds. -/
def Answer : Call → Type
  | lookup l => l.Answer
  | change c => c.Answer

end Call

/-- A lookup changes nothing. -/
@[simp] theorem Lookup.request_method (l : Lookup) : l.request.method = .get := by
  cases l <;> rfl

/-- A change is no lookup. -/
theorem Change.request_method_ne (c : Change) : c.request.method ≠ .get := by
  cases c <;> simp [Change.request, Request.change]
  case packageAction uuid action => cases action <;> simp [Change.actionMethod]

end HostConsole
