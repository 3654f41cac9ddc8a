import HostConsole.Proofs.OneChange

/-!
# Routes

A command that is about a system goes a route to it: it begins with finding the system that its
reference means, and changes no other one. Every command looks things up before it asks for its
only change.

There are three routes, and a command goes the same one whatever it is answered. What it does
behind the route is known only by the system that the route found, so `Route.Begins` speaks of
every system that may be found. The operations come first, then one lemma for each command, and
the case split over the commands comes last.

## Main definitions

* `Route`, `Route.find`: how a command gets from a reference to a system
* `Route.Begins`: a program that goes a route, and changes no system but the one found
* `Membership.Begins`: the same for a program that looks groups up next
* `ServerCommand.pointer?`: the reference of a command and its route
* `Session.Goes`: a program that goes a route to its command's target

## Main results

* `ServerCommand.goes`: a command with a reference goes its route
* `ServerCommand.changesOnce`: the program of any command changes once
-/

namespace HostConsole

open Program

/-! ## Finding a system -/

namespace Resolution

theorem inquires_environment (org : String) (name : Option String) :
    (environment org name).Inquires := by
  apply (inquires_look _ _).bind
  intro found
  cases found <;> trivial

theorem inquires_system (org : String) (reference : SystemReference)
    (inEnvironment : Option String) : (system org reference inEnvironment).Inquires := by
  cases reference with
  | uuid uuid => exact inquires_look _ _
  | name name =>
    have settled (found : List Machine) :
        (require (exactlyOne found (.name name) org) >>= fun only =>
          look (.system only.uuid) (some (.systemNotFound (.name name) org))).Inquires := by
      apply (inquires_require _).bind
      intro only
      exact inquires_look _ _
    cases inEnvironment with
    | some place =>
      -- the environment, its systems, the full record
      apply (inquires_environment org (some place)).bind
      intro place
      exact Inquires.bind (inquires_look _ _) settled
    | none => exact Inquires.bind (inquires_look _ _) settled

theorem inquires_listedSystem (org : String) (reference : SystemReference) :
    (listedSystem org reference).Inquires := by
  apply (inquires_look _ _).bind
  intro found
  exact inquires_require _

theorem inquires_uuid (org : String) (reference : SystemReference) :
    (uuid org reference).Inquires := by
  cases reference with
  | uuid uuid => trivial
  | name name =>
    apply (inquires_system org (.name name) none).bind
    intro machine
    trivial

end Resolution

/-- How a command gets from a reference to the system that it is about. -/
inductive Route where
  /-- By the full record of the system, which may be looked for in an environment. -/
  | record (environment : Option String)
  /-- By the listing of the organisation. -/
  | listing
  /-- A uuid is taken as it is, a name by the full record. -/
  | direct

/-- The system whose uuid stands in the path of a change. -/
def Change.system? : Change → Option String
  | .unregister uuid | .update uuid _ | .packageAction uuid _ | .subscribe uuid _ _
  | .unsubscribe uuid _ | .addSystemGroups uuid _ | .removeSystemGroups uuid _ => some uuid
  | .register _ | .removeDeletionRecord _ | .addCustomInfo .. | .updateCustomInfo ..
  | .removeCustomInfo .. => none

/-- The change is about no other system. -/
def Change.AimsAt (uuid : String) (ch : Change) : Prop :=
  ∀ system, ch.system? = some system → system = uuid

theorem Change.AimsAt.of_system?_eq {ch : Change} {uuid : String} (h : ch.system? = some uuid) :
    ch.AimsAt uuid := by
  intro system hs
  rw [h] at hs
  exact (Option.some.inj hs).symm

namespace Route

/-- What a route leads to. -/
def Found : Route → Type
  | record _ | listing => Machine
  | direct => String

/-- The uuid of what was found. -/
def uuidOf : (route : Route) → route.Found → String
  | record _, machine | listing, machine => Machine.uuid machine
  | direct, uuid => uuid

/-- The program that goes the route. -/
def find (org : String) (reference : SystemReference) : (route : Route) → Program route.Found
  | record environment => Resolution.system org reference environment
  | listing => Resolution.listedSystem org reference
  | direct => Resolution.uuid org reference

theorem inquires_find (org : String) (reference : SystemReference) (route : Route) :
    (route.find org reference).Inquires := by
  cases route with
  | record environment => exact Resolution.inquires_system org reference environment
  | listing => exact Resolution.inquires_listedSystem org reference
  | direct => exact Resolution.inquires_uuid org reference

variable {α β : Type} {route : Route} {org : String} {reference : SystemReference}

/-- The program begins by finding a system, and changes no other. -/
def Begins (route : Route) (org : String) (reference : SystemReference) (p : Program α) : Prop :=
  ∃ rest : route.Found → Program α, p = route.find org reference >>= rest ∧
    ∀ found, (rest found).ChangesOnce (Change.AimsAt (route.uuidOf found))

theorem Begins.bind {p : Program α} {f : α → Program β} (h : route.Begins org reference p)
    (hf : ∀ result, (f result).Follows none) : route.Begins org reference (p >>= f) := by
  obtain ⟨rest, rfl, hr⟩ := h
  exact ⟨fun found => rest found >>= f, bind_assoc _ _ _, fun found => (hr found).bind hf⟩

theorem Begins.changesOnce {p : Program α} (h : route.Begins org reference p) :
    p.ChangesOnce fun _ => True := by
  obtain ⟨rest, rfl, hr⟩ := h
  apply (inquires_find org reference route).bind
  intro found
  exact (hr found).mono fun _ _ => trivial

end Route

/-! ## The operations -/

namespace Systems

variable (org : String) (reference : SystemReference) (environment : Option String)

theorem inquires_list (poolId : Option String) : (list org environment poolId).Inquires := by
  cases environment with
  | none => exact inquires_look _ _
  | some name =>
    exact (Resolution.inquires_environment org (some name)).bind fun _ => inquires_look _ _

theorem inquires_tasks : (tasks org reference environment).Inquires := by
  apply (Resolution.inquires_environment org environment).bind
  intro place
  exact inquires_look _ _

theorem inquires_environmentId : (environmentId org environment).Inquires := by
  cases environment with
  | none => trivial
  | some name => exact (Resolution.inquires_environment org (some name)).bind fun _ => trivial

theorem inquires_releases_environment (name : String) :
    (releases org (.environment name)).Inquires := by
  apply (Resolution.inquires_environment org (some name)).bind
  intro place
  apply Inquires.bind (inquires_look _ _)
  intro found
  trivial

theorem begins_releases : Route.direct.Begins org reference
    (releases org (.system reference)) := by
  cases reference with
  | uuid uuid =>
    exact ⟨fun _ => releases org (.system (.uuid uuid)), rfl, fun _ =>
      (inquires_look _ _).bind fun _ => trivial⟩
  | name name =>
    -- A name is resolved within the operation, and its uuid is what the route finds.
    let rest (uuid : String) : Program (List String) := do
      let found : Releases ← look (.releasesOfSystem uuid)
      return found.releases
    have he : releases org (.system (.name name)) =
        (Resolution.system org (.name name) none >>= fun machine => pure machine.uuid) >>= rest :=
      (bind_assoc _ (fun machine : Machine => (pure machine.uuid : Program String)) rest).symm
    exact ⟨rest, he, fun _ => (inquires_look _ _).bind fun _ => trivial⟩

theorem begins_details : (Route.record environment).Begins org reference
    (details org reference environment) :=
  ⟨fun machine => do
      let customInfo : CustomInfo ← look (.customInfo machine.customInfoKey none)
      return { machine, customInfo },
    rfl, fun _ => (inquires_look _ _).bind fun _ => trivial⟩

theorem changesOnce_register (request : RegisterRequest) {allowed : Change → Prop}
    (ha : ∀ registration, allowed (.register registration)) :
    (register request).ChangesOnce allowed := by
  apply (inquires_environmentId request.org request.environment).bind
  intro environmentId
  apply changesOnce_change_bind (ha _)
  intro record
  exact follows_require _

theorem begins_unregister : (Route.record environment).Begins org reference
    (unregister org reference environment) :=
  ⟨fun machine => do
      let _ : Unit ← change (.unregister machine.uuid)
      return machine,
    rfl, fun _ => changesOnce_change_bind (.of_system?_eq rfl) fun _ => trivial⟩

theorem begins_update (changes : Changes) : (Route.record environment).Begins org reference
    (update org reference environment changes) := by
  refine ⟨_, rfl, fun machine => ?_⟩
  -- The new environment is looked up between the record and the change.
  apply (inquires_environmentId org changes.environment).bind
  intro environmentId
  apply changesOnce_change_bind (.of_system?_eq rfl)
  intro record
  apply (follows_require _).bind
  intro confirmed
  trivial

end Systems

namespace Membership

variable {α β : Type} {org : String} {reference : SystemReference} {names : List String}

/-- The program finds the system in the listing of the organisation, looks the groups up next,
and then changes no other system. -/
def Begins (org : String) (reference : SystemReference) (names : List String) (p : Program α) :
    Prop :=
  ∃ next : Machine → List SystemGroup → Program α,
    (p = Resolution.listedSystem org reference >>= fun only =>
      look (.systemGroups org names) >>= next only) ∧
    ∀ only groups, (next only groups).ChangesOnce (Change.AimsAt only.uuid)

theorem Begins.bind {p : Program α} {f : α → Program β} (h : Begins org reference names p)
    (hf : ∀ result, (f result).Follows none) : Begins org reference names (p >>= f) := by
  obtain ⟨next, rfl, hn⟩ := h
  exact ⟨fun only groups => next only groups >>= f, bind_assoc _ _ _,
    fun only groups => (hn only groups).bind hf⟩

theorem Begins.begins {p : Program α} (h : Begins org reference names p) :
    Route.listing.Begins org reference p := by
  obtain ⟨next, rfl, hn⟩ := h
  refine ⟨_, rfl, fun only => ?_⟩
  apply (inquires_look _ _).bind
  exact hn only

/-- The groups are looked up by their names, and then a change of the system follows. -/
theorem begins_of_groupIds {next : Machine → List Nat → Program α}
    (hn : ∀ only ids, (next only ids).ChangesOnce (Change.AimsAt only.uuid)) :
    Begins org reference names (Resolution.listedSystem org reference >>= fun only =>
      groupIds org names >>= next only) := by
  refine ⟨fun only groups => require (numbersOf groups names org) >>= next only, ?_, ?_⟩
  · exact bind_congr fun _ => bind_assoc _ _ _
  · intro only groups
    exact (inquires_require _).bind (hn only)

variable (org reference names)

theorem begins_join : Begins org reference names (join org reference names) := by
  apply begins_of_groupIds
  intro only ids
  exact changesOnce_change_bind (.of_system?_eq rfl) fun _ => follows_require _

theorem begins_leave : Begins org reference names (leave org reference names) := by
  apply begins_of_groupIds
  intro only ids
  exact changesOnce_change_bind (.of_system?_eq rfl) fun _ => follows_require _

end Membership

/-! The texts attached to a system are no part of its record. -/

namespace CustomInfo

variable {uuid : String} (machine : Machine)

theorem changesOnce_add (key value : String) :
    (add machine key value).ChangesOnce (Change.AimsAt uuid) :=
  changesOnce_change_bind nofun fun _ => trivial

theorem changesOnce_update (key current new : String) :
    (update machine key current new).ChangesOnce (Change.AimsAt uuid) :=
  changesOnce_change_bind nofun fun _ => trivial

theorem changesOnce_remove (key : String) (value : Option String) :
    (remove machine key value).ChangesOnce (Change.AimsAt uuid) :=
  ⟨nofun, fun _ => trivial⟩

end CustomInfo

namespace Report

theorem inquires_fetch (org : String) (environment : Option String) (format : ReportFormat) :
    (fetch org environment format).Inquires := by
  cases environment with
  | none => exact inquires_look _ _
  | some name =>
    exact (Resolution.inquires_environment org (some name)).bind fun _ => inquires_look _ _

end Report

/-! ## The commands -/

theorem exists_of_bind_eq_ok {ε α β : Type} {x : Except ε α} {f : α → Except ε β} {result : β}
    (h : (x >>= f) = .ok result) : ∃ a, x = .ok a ∧ f a = .ok result := by
  cases x with
  | ok a => exact ⟨a, rfl, h⟩
  | error e => cases h

/-- The system that a command is about and the route to it, where the command goes one. -/
def ServerCommand.pointer? : ServerCommand → Option (Selector × Route)
  | .info system environment | .packages system environment _ | .facts system environment
  | .unregister system environment | .update system environment ..
  | .addCustomInfo system environment .. | .viewCustomInfo system environment _
  | .updateCustomInfo system environment .. | .removeCustomInfo system environment .. =>
    some (system, .record environment)
  | .subscribe system .. | .subscriptions system .. | .unsubscribe system .. =>
    some (system, .direct)
  | .addSystemGroups system _ | .removeSystemGroups system _ => some (system, .listing)
  | .releases source _ =>
    match source.uuid, source.name with
    | some _, _ => some ({ source with name := none }, .direct)
    | none, some _ => some (source, .direct)
    | none, none => none
  | .list .. | .tasks .. | .taskInfo _ | .register .. | .removeDeletion _ | .report .. => none

namespace Session

variable {s : Session} {system : Selector} {environment : Option String}
  {program : Program ExitCode}

/-- The target of a command that is in order. -/
theorem exists_target {next : String × SystemReference → Prepared}
    (h : (s.target system >>= next) = .ok program) :
    ∃ org reference, s.target system = .ok (org, reference) ∧
      next (org, reference) = .ok program := by
  obtain ⟨⟨org, reference⟩, ht, hn⟩ := exists_of_bind_eq_ok h
  exact ⟨org, reference, ht, hn⟩

/-- The program goes the route to the command's target. -/
def Goes (s : Session) (system : Selector) (route : Route) (program : Program ExitCode) : Prop :=
  ∃ org reference, s.target system = .ok (org, reference) ∧ route.Begins org reference program

/-- A command goes a route if what it does with its target does. -/
theorem goes_of_target {route : Route} {next : String × SystemReference → Prepared}
    (h : (s.target system >>= next) = .ok program)
    (hb : ∀ org reference, next (org, reference) = .ok program →
      route.Begins org reference program) : s.Goes system route program := by
  obtain ⟨org, reference, ht, hn⟩ := exists_target h
  exact ⟨org, reference, ht, hb org reference hn⟩

theorem Goes.changesOnce {route : Route} (h : s.Goes system route program) :
    program.ChangesOnce fun _ => True := by
  obtain ⟨org, reference, -, hb⟩ := h
  exact hb.changesOnce

theorem goes_info (h : s.info system environment = .ok program) :
    s.Goes system (.record environment) program := by
  refine goes_of_target h fun org reference hn => ?_
  cases hn
  exact (Systems.begins_details org reference environment).bind fun _ => trivial

theorem begins_installedPackages (org : String) (reference : SystemReference) :
    (Route.record environment).Begins org reference
      (s.installedPackages org reference environment) :=
  ⟨_, rfl, fun _ => (inquires_look _ _).bind fun _ => trivial⟩

/-- A package action is followed by looks at the task that it started. -/
theorem changesOnce_performAction (uuid : String) (action : PackageAction) :
    (s.performAction uuid action).ChangesOnce fun ch => ch = .packageAction uuid action := by
  refine changesOnce_change_bind rfl fun task => ⟨rfl, ?_⟩
  -- Behind the wait there is only the verdict, which is told and not asked for.
  intro ended
  change (if ended.state.succeeded then _ else _ : Program ExitCode).Follows _
  split <;> trivial

theorem goes_packages {options : PackageOptions}
    (h : s.packages system environment options = .ok program) :
    s.Goes system (.record environment) program := by
  refine goes_of_target h fun org reference hn => ?_
  obtain ⟨action, -, hn⟩ := exists_of_bind_eq_ok hn
  cases action with
  | none =>
    cases hn
    exact begins_installedPackages org reference
  | some action =>
    cases hn
    refine ⟨_, rfl, fun machine => ?_⟩
    exact (changesOnce_performAction machine.uuid action).mono fun ch same =>
      .of_system?_eq (same ▸ rfl)

theorem goes_facts (h : s.facts system environment = .ok program) :
    s.Goes system (.record environment) program := by
  refine goes_of_target h fun org reference hn => ?_
  cases hn
  exact ⟨_, rfl, fun _ => trivial⟩

theorem goes_releases (h : s.releases system environment = .ok program) {pointer : Selector}
    {route : Route}
    (hp : (ServerCommand.releases system environment).pointer? = some (pointer, route)) :
    s.Goes pointer route program := by
  obtain ⟨org, ho, hn⟩ := exists_of_bind_eq_ok h
  obtain ⟨source, hs, hn⟩ := exists_of_bind_eq_ok hn
  cases hn
  obtain ⟨given, name, uuid⟩ := system
  -- A uuid comes before a name, and the command is about no system where neither is given.
  have targeted {reference : SystemReference}
      (hr : SystemReference.ofOptions pointer.name pointer.uuid = .ok reference)
      (hg : pointer.org = given) : s.target pointer = .ok (org, reference) := by
    simp only [target, hg, ho, hr]
    rfl
  cases uuid with
  | some uuid =>
    cases hp
    cases hs
    exact ⟨org, .uuid uuid, targeted rfl rfl,
      (Systems.begins_releases org (.uuid uuid)).bind fun _ => trivial⟩
  | none =>
    cases name with
    | some name =>
      cases hp
      cases hs
      exact ⟨org, .name name, targeted rfl rfl,
        (Systems.begins_releases org (.name name)).bind fun _ => trivial⟩
    | none => cases hp

theorem goes_subscriptions {available : Bool} {filter : PoolFilter}
    (h : s.subscriptions system available filter = .ok program) :
    s.Goes system .direct program := by
  refine goes_of_target h fun org reference hn => ?_
  cases hn
  split
  · refine ⟨_, rfl, fun _ => (inquires_look _ _).bind fun found => ?_⟩
    split <;> trivial
  · refine ⟨_, rfl, fun _ => (inquires_look _ _).bind fun found => ?_⟩
    split <;> trivial

theorem goes_viewCustomInfo {key : Option String}
    (h : s.viewCustomInfo system environment key = .ok program) :
    s.Goes system (.record environment) program := by
  refine goes_of_target h fun org reference hn => ?_
  cases hn
  exact ⟨_, rfl, fun _ => (inquires_look _ _).bind fun _ => trivial⟩

theorem goes_unregister (h : s.unregister system environment = .ok program) :
    s.Goes system (.record environment) program := by
  refine goes_of_target h fun org reference hn => ?_
  cases hn
  exact (Systems.begins_unregister org reference environment).bind fun _ => trivial

theorem goes_update {changes : Systems.Changes}
    (h : s.update system environment changes = .ok program) :
    s.Goes system (.record environment) program := by
  refine goes_of_target h fun org reference hn => ?_
  cases hn
  exact (Systems.begins_update org reference environment changes).bind fun _ => trivial

theorem goes_subscribe {pool : String} {quantity : Nat}
    (h : s.subscribe system pool quantity = .ok program) : s.Goes system .direct program := by
  refine goes_of_target h fun org reference hn => ?_
  cases hn
  exact ⟨_, rfl, fun uuid =>
    changesOnce_change_bind (.of_system?_eq rfl) fun _ => trivial⟩

theorem goes_unsubscribe {entitlement serial : Option String} {all : Bool}
    (h : s.unsubscribe system entitlement serial all = .ok program) :
    s.Goes system .direct program := by
  -- What to give back is settled before the target, which the route does not see.
  obtain ⟨what, -, ht⟩ := exists_of_bind_eq_ok h
  refine goes_of_target ht fun org reference hn => ?_
  cases hn
  exact ⟨_, rfl, fun uuid =>
    changesOnce_change_bind (.of_system?_eq rfl) fun _ => trivial⟩

theorem begins_systemGroups {groups : List String} {joins : Bool}
    (h : s.systemGroups system groups joins = .ok program) :
    ∃ org reference names, s.target system = .ok (org, reference) ∧
      Membership.Begins org reference names program := by
  obtain ⟨org, reference, ht, hn⟩ := exists_target h
  obtain ⟨names, -, hn⟩ := exists_of_bind_eq_ok hn
  cases hn
  refine ⟨org, reference, names, ht, ?_⟩
  split
  · exact (Membership.begins_join org reference names).bind fun _ => trivial
  · exact (Membership.begins_leave org reference names).bind fun _ => trivial

theorem goes_systemGroups {groups : List String} {joins : Bool}
    (h : s.systemGroups system groups joins = .ok program) : s.Goes system .listing program := by
  obtain ⟨org, reference, names, ht, hb⟩ := begins_systemGroups h
  exact ⟨org, reference, ht, hb.begins⟩

theorem goes_addCustomInfo {key value : String}
    (h : s.addCustomInfo system environment key value = .ok program) :
    s.Goes system (.record environment) program := by
  refine goes_of_target h fun org reference hn => ?_
  cases hn
  refine ⟨_, rfl, fun machine => ?_⟩
  apply (CustomInfo.changesOnce_add machine key value).bind
  intro answer
  exact follows_verdict

theorem goes_updateCustomInfo {key current new : String}
    (h : s.updateCustomInfo system environment key current new = .ok program) :
    s.Goes system (.record environment) program := by
  refine goes_of_target h fun org reference hn => ?_
  cases hn
  refine ⟨_, rfl, fun machine => ?_⟩
  apply (CustomInfo.changesOnce_update machine key current new).bind
  intro answer
  exact follows_verdict

theorem goes_removeCustomInfo {key : String} {value : Option String}
    (h : s.removeCustomInfo system environment key value = .ok program) :
    s.Goes system (.record environment) program := by
  refine goes_of_target h fun org reference hn => ?_
  cases hn
  refine ⟨_, rfl, fun machine => ?_⟩
  apply (CustomInfo.changesOnce_remove machine key value).bind
  intro answer
  exact follows_verdict

/-! ### Commands that go no route -/

variable {org : Option String}

theorem inquires_list {poolId : Option String}
    (h : s.list org environment poolId = .ok program) : program.Inquires := by
  obtain ⟨org, -, hn⟩ := exists_of_bind_eq_ok h
  cases hn
  exact (Systems.inquires_list org environment poolId).bind fun _ => trivial

theorem inquires_tasks (h : s.tasks system environment = .ok program) : program.Inquires := by
  obtain ⟨org, reference, -, hn⟩ := exists_target h
  cases hn
  exact (Systems.inquires_tasks org reference environment).bind fun _ => trivial

theorem inquires_taskInfo {id : String} (h : s.taskInfo id = .ok program) : program.Inquires := by
  cases h
  exact (inquires_look _ _).bind fun _ => trivial

theorem inquires_report {format : String} (h : s.report org environment format = .ok program) :
    program.Inquires := by
  obtain ⟨org, -, hn⟩ := exists_of_bind_eq_ok h
  obtain ⟨format, -, hn⟩ := exists_of_bind_eq_ok hn
  cases hn
  apply (Report.inquires_fetch org environment format).bind
  intro report
  split <;> trivial

/-- The releases of an environment are no system's. -/
theorem inquires_releases (h : s.releases system environment = .ok program)
    (hp : (ServerCommand.releases system environment).pointer? = none) : program.Inquires := by
  obtain ⟨org, -, hn⟩ := exists_of_bind_eq_ok h
  obtain ⟨source, hs, hn⟩ := exists_of_bind_eq_ok hn
  cases hn
  obtain ⟨given, name, uuid⟩ := system
  -- With a name or a uuid the command has a reference.
  rcases name with _ | name
  · rcases uuid with _ | uuid
    · cases environment with
      | none => cases hs
      | some place =>
        cases hs
        exact (Systems.inquires_releases_environment org place).bind fun _ => trivial
    · cases hp
  · rcases uuid with _ | uuid
    · cases hp
    · cases hp

theorem changesOnce_register {name : String} {serviceLevel release : Option String}
    {activationKeys facts : List String}
    (h : s.register name org environment serviceLevel activationKeys release facts =
      .ok program) : program.ChangesOnce fun ch => ch.system? = none := by
  obtain ⟨org, -, hn⟩ := exists_of_bind_eq_ok h
  cases hn
  exact (Systems.changesOnce_register _ fun _ => rfl).bind fun _ => trivial

theorem changesOnce_removeDeletion {uuid : String} (h : removeDeletion uuid = .ok program) :
    program.ChangesOnce fun ch => ch.system? = none := by
  cases h
  exact changesOnce_change_bind rfl fun _ => trivial

end Session

namespace ServerCommand

variable {s : Session} {command : ServerCommand} {program : Program ExitCode}

/-- **A command with a reference goes its route.** It begins with finding the system, and changes
no other one. -/
theorem goes {system : Selector} {route : Route} (h : command.prepare s = .ok program)
    (hp : command.pointer? = some (system, route)) : s.Goes system route program := by
  cases command with
  | list | tasks | taskInfo | register | removeDeletion | report => cases hp
  | info => cases hp; exact Session.goes_info h
  | packages => cases hp; exact Session.goes_packages h
  | releases => exact Session.goes_releases h hp
  | facts => cases hp; exact Session.goes_facts h
  | unregister => cases hp; exact Session.goes_unregister h
  | subscribe => cases hp; exact Session.goes_subscribe h
  | subscriptions => cases hp; exact Session.goes_subscriptions h
  | unsubscribe => cases hp; exact Session.goes_unsubscribe h
  | update => cases hp; exact Session.goes_update h
  | addSystemGroups => cases hp; exact Session.goes_systemGroups h
  | removeSystemGroups => cases hp; exact Session.goes_systemGroups h
  | addCustomInfo => cases hp; exact Session.goes_addCustomInfo h
  | viewCustomInfo => cases hp; exact Session.goes_viewCustomInfo h
  | updateCustomInfo => cases hp; exact Session.goes_updateCustomInfo h
  | removeCustomInfo => cases hp; exact Session.goes_removeCustomInfo h

/-- The commands that go the route of the listing look the groups up next. -/
theorem begins_of_listing {system : Selector} (h : command.prepare s = .ok program)
    (hp : command.pointer? = some (system, .listing)) :
    ∃ org reference names, s.target system = .ok (org, reference) ∧
      Membership.Begins org reference names program := by
  cases command with
  | addSystemGroups => cases hp; exact Session.begins_systemGroups h
  | removeSystemGroups => cases hp; exact Session.begins_systemGroups h
  | releases source environment =>
    -- The releases of a system are found directly.
    obtain ⟨given, _ | name, _ | uuid⟩ := source <;> cases hp
  | _ => cases hp

/-- A command without a reference changes no system that is there. -/
theorem changesOnce_of_pointer?_eq_none (h : command.prepare s = .ok program)
    (hp : command.pointer? = none) : program.ChangesOnce fun ch => ch.system? = none := by
  cases command with
  | list => exact (Session.inquires_list h).changesOnce
  | tasks => exact (Session.inquires_tasks h).changesOnce
  | taskInfo => exact (Session.inquires_taskInfo h).changesOnce
  | releases => exact (Session.inquires_releases h hp).changesOnce
  | register => exact Session.changesOnce_register h
  | removeDeletion => exact Session.changesOnce_removeDeletion h
  | report => exact (Session.inquires_report h).changesOnce
  | _ => cases hp

/-- The program of every command changes once. -/
theorem changesOnce (h : command.prepare s = .ok program) :
    program.ChangesOnce fun _ => True := by
  cases hp : command.pointer? with
  | none => exact (changesOnce_of_pointer?_eq_none h hp).mono fun _ _ => trivial
  | some pointer => exact (goes h hp).changesOnce

end ServerCommand

end HostConsole
