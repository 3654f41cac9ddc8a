import HostConsole.Proofs.Acceptance
import HostConsole.Proofs.ExitCodes
import HostConsole.Proofs.Secrecy

/-!
# Accepted invocations

What a command line has to choose is checked twice: by the grammar of the console, and once more by
the command when it is prepared. A command line that the grammar accepts leaves the second check
nothing to find.

The grammar speaks of options that were given, commands of values that they have. The two agree
where an option always takes a value (`isSome_value?`); an update of packages need not have one,
and is asked for by the option alone.

## Main definitions

* `ServerCommand.IsInOrder`: the options of a command go together
* `Failure.IsOfChoice`: the failures of the second check
* `KeepsChoices`: a result that is none of them

## Main results

* `CommandLine.isInOrder_of_serverCommand?`: what fits the grammar of a command is in order
* `ServerCommand.keepsChoices_runUnder`: a command in order gets past the second check
* `Invocation.isInOrder_of_ofArguments`: an accepted command line is in order
-/

namespace HostConsole

open CommandLine

/-! ## Options that go together -/

/-- The system is given by its name or by its uuid, and not by both. -/
def Selector.PointsAtOne (system : Selector) : Prop :=
  IsSingle [system.name.isSome, system.uuid.isSome]

/-- The system is given in one way, and by its uuid only without an environment to look in. -/
def Selector.PointsAtOneIn (system : Selector) (environment : Option String) : Prop :=
  system.PointsAtOne ∧ ¬ (environment.isSome = true ∧ system.uuid.isSome = true)

/-- The options of the command go together. -/
def ServerCommand.IsInOrder : ServerCommand → Prop
  | .info system environment | .tasks system environment | .facts system environment
  | .unregister system environment | .update system environment _ _ _ _ _ _
  | .addCustomInfo system environment _ _ | .viewCustomInfo system environment _
  | .updateCustomInfo system environment _ _ _ | .removeCustomInfo system environment _ _ =>
    system.PointsAtOneIn environment
  | .packages system environment options =>
    system.PointsAtOneIn environment ∧
      (options.updateAll = true → options.update.isSome = true)
  | .subscribe system _ _ | .addSystemGroups system _ | .removeSystemGroups system _ =>
    system.PointsAtOne
  | .subscriptions system available filter =>
    system.PointsAtOne ∧ (filter.matchSystem = true ∨ filter.matchInstalled = true ∨
      filter.noOverlap = true → available = true)
  | .unsubscribe system entitlement serial all =>
    system.PointsAtOne ∧ IsSingle [entitlement.isSome, serial.isSome, all]
  | .releases source environment =>
    IsSingle [source.name.isSome, source.uuid.isSome, environment.isSome]
  | .register _ _ environment _ activationKeys _ _ =>
    ¬ (environment.isSome = true ∧ activationKeys ≠ [])
  | .list .. | .taskInfo _ | .removeDeletion _ | .report .. => True

namespace CommandLine

/-! ## The first check -/

/-- The options by whose values a command sees what was chosen. -/
def choosers : List String :=
  ["name", "uuid", "environment", "entitlement", "serial"]

/-- Such an option always takes a value. -/
theorem least_pos_of_chooser : ∀ command ∈ console.commands, ∀ rule ∈ command.level.rules,
    rule.identity ∈ choosers → 0 < rule.least := by
  decide +kernel

/-- A choice is between different options of its command. -/
theorem choice_nodup : ∀ command ∈ console.commands, ∀ members ∈ command.level.choices,
    members.Nodup ∧
      ∀ member ∈ members, ∃ rule ∈ command.level.options, rule.identity = member := by
  decide +kernel

section Fits

variable {rule : CommandRule} {found : Found}

theorem isSome_value? (hr : rule ∈ console.commands) (fits : rule.level.Fits found)
    {identity : String} (hi : identity ∈ choosers) :
    (found.value? identity).isSome = found.has identity :=
  fits.isFrom.isSome_value? fun option ho same => least_pos_of_chooser rule hr option ho (same ▸ hi)

/-- Of a choice one member is given. -/
theorem isSingle_of_choice (hr : rule ∈ console.commands) (fits : rule.level.Fits found)
    {members : List String} (hm : members ∈ rule.level.choices) :
    IsSingle (members.map found.has) := by
  obtain ⟨distinct, known⟩ := choice_nodup rule hr members hm
  exact isSingle_map distinct (fits.exists_only hm known)

/-- Of a choice between values one is there. -/
theorem isSingle_values (hr : rule ∈ console.commands) (fits : rule.level.Fits found)
    {members : List String} (hm : members ∈ rule.level.choices)
    (hv : ∀ member ∈ members, member ∈ choosers) :
    IsSingle (members.map fun member => (found.value? member).isSome) := by
  rw [List.map_congr_left fun member mem => isSome_value? hr fits (hv member mem)]
  exact isSingle_of_choice hr fits hm

theorem pointsAtOne_of_choice (hr : rule ∈ console.commands) (fits : rule.level.Fits found)
    (hm : ["name", "uuid"] ∈ rule.level.choices) : found.selector.PointsAtOne :=
  isSingle_values hr fits hm (by decide)

/-- A command that can look in an environment does so for a name only. -/
theorem pointsAtOneIn_of_fits {name : String} {options : List OptionRule}
    (hr : aboutSystem name (lookupEnvironment :: options) ∈ console.commands)
    (fits : (aboutSystem name (lookupEnvironment :: options)).level.Fits found) :
    found.selector.PointsAtOneIn (found.value? "environment") := by
  refine ⟨pointsAtOne_of_choice hr fits List.mem_cons_self, ?_⟩
  have apart := fits.not_both (a := lookupEnvironment) (b := valued "uuid" "uuid")
    (List.mem_append_right _ (by simp [systemOptions]))
    (List.mem_append_right _ (by simp [systemOptions])) rfl
  unfold Found.selector
  rw [isSome_value? hr fits (by decide), isSome_value? hr fits (by decide)]
  exact apart

/-! Some commands have checks of their own. -/

theorem isInOrder_packages
    (hr : aboutSystem "packages" (lookupEnvironment :: packageOptions) ∈ console.commands)
    (fits : (aboutSystem "packages" (lookupEnvironment :: packageOptions)).level.Fits found) :
    (ServerCommand.packages found.selector (found.value? "environment")
      found.packageOptions).IsInOrder := by
  refine ⟨pointsAtOneIn_of_fits hr fits, fun all => ?_⟩
  have given : found.has "update" = true :=
    fits.has_of_requires (a := { switch "all" "all" with requires := ["update"] })
      (by decide) (List.mem_singleton_self _) all
  simp [Found.packageOptions, Found.values?, given]

/-- A choice may have a switch among its members. -/
theorem isSingle_unsubscribeTarget (hr : rule ∈ console.commands) (fits : rule.level.Fits found)
    (hm : ["entitlement", "serial", "all"] ∈ rule.level.choices) :
    IsSingle [(found.value? "entitlement").isSome, (found.value? "serial").isSome,
      found.has "all"] := by
  rw [isSome_value? hr fits (by decide), isSome_value? hr fits (by decide)]
  exact isSingle_of_choice hr fits hm

/-- Options that exclude each other do not both have values. -/
theorem not_both_values {a b : OptionRule} (fits : rule.level.Fits found)
    (ha : a ∈ rule.level.options) (hb : b ∈ rule.level.options)
    (apart : excludes rule.level a b = true) :
    ¬ ((found.value? a.identity).isSome = true ∧ found.values b.identity ≠ []) := by
  rintro ⟨value, values⟩
  refine fits.not_both ha hb apart ⟨Found.has_of_isSome_value? value, ?_⟩
  exact eq_true_of_ne_false fun absent => values (Found.values_of_not_has absent)

/-- Pools are only narrowed where those that are available are asked for. -/
theorem available_of_poolSwitch {name : String} (fits : rule.level.Fits found)
    (option : poolSwitch name ∈ rule.level.options) (given : found.has name = true) :
    found.has "available" = true :=
  fits.has_of_requires option (List.mem_singleton_self _) given

/-- **What fits the grammar of a command is in order.** -/
theorem isInOrder_of_serverCommand? {name : String} {command : ServerCommand}
    (hr : console.command? name = some rule) (fits : rule.level.Fits found)
    (hc : serverCommand? name found = some command) : command.IsInOrder := by
  have known := List.mem_of_find?_eq_some hr
  unfold serverCommand? at hc
  dsimp only at hc
  -- A name gives the command and its rule.
  split at hc <;> cases hc <;> cases hr
  · -- list
    trivial
  · -- info
    exact pointsAtOneIn_of_fits known fits
  · -- packages
    exact isInOrder_packages known fits
  · -- tasks
    exact pointsAtOneIn_of_fits known fits
  · -- task_info
    trivial
  · -- releases
    exact isSingle_values known fits List.mem_cons_self (by decide)
  · -- facts
    exact pointsAtOneIn_of_fits known fits
  · -- register
    exact not_both_values (a := { environmentOption with conflicts := ["activationkey"] })
      (b := listed "activationkey" "activationkey") fits (by decide) (by decide) rfl
  · -- unregister
    exact pointsAtOneIn_of_fits known fits
  · -- remove_deletion
    trivial
  · -- subscribe
    exact pointsAtOne_of_choice known fits List.mem_cons_self
  · -- subscriptions
    refine ⟨pointsAtOne_of_choice known fits List.mem_cons_self, ?_⟩
    rintro (narrowed | narrowed | narrowed)
    · exact available_of_poolSwitch fits (by decide) narrowed
    · exact available_of_poolSwitch fits (by decide) narrowed
    · exact available_of_poolSwitch fits (by decide) narrowed
  · -- unsubscribe
    exact ⟨pointsAtOne_of_choice known fits List.mem_cons_self,
      isSingle_unsubscribeTarget known fits (List.mem_append_right _ List.mem_cons_self)⟩
  · -- update
    exact pointsAtOneIn_of_fits known fits
  · -- report
    trivial
  · -- add_system_groups
    exact pointsAtOne_of_choice known fits List.mem_cons_self
  · -- remove_system_groups
    exact pointsAtOne_of_choice known fits List.mem_cons_self
  -- The commands about attached texts look in an environment too.
  all_goals exact pointsAtOneIn_of_fits known fits

end Fits

/-- A server command comes from the one level below the console's name. -/
theorem exists_of_command? {levels : List (String × Found)} {command : ServerCommand}
    (h : console.Accepts levels) (hc : command? levels.tail = some (.server command)) :
    ∃ rule name found, console.command? name = some rule ∧ rule.level.Fits found ∧
      serverCommand? name found = some command := by
  obtain ⟨name, found, one, hs⟩ := exists_of_command?_eq_server hc
  obtain ⟨rule, named, fits⟩ := h.fits_of_tail one
  exact ⟨rule, name, found, named, fits, hs⟩

end CommandLine

/-! ## The second check -/

/-- The failures of commands that find a choice not made, or made twice. -/
@[simp] def Failure.IsOfChoice : Failure → Prop
  | missingSystemReference | conflictingSystemReference .. => True
  | usage fault => fault = .unsubscribeTargetMissing ∨ fault = .releaseSourceMissing
  | _ => False

theorem Failure.IsOfChoice.exitCode {failure : Failure} (h : failure.IsOfChoice) :
    failure.exitCode = .usage := by
  cases failure <;> first | rfl | cases h

/-- The result is no failure of a choice. -/
def KeepsChoices {α : Type} (x : Except Failure α) : Prop :=
  ∀ failure, x = .error failure → ¬ failure.IsOfChoice

section KeepsChoices

variable {α β : Type} {x : Except Failure α} {s : Session} {system : Selector}

@[simp] theorem keepsChoices_ok (a : α) : KeepsChoices (.ok a : Except Failure α) :=
  nofun

@[simp] theorem keepsChoices_error {failure : Failure} :
    KeepsChoices (.error failure : Except Failure α) ↔ ¬ failure.IsOfChoice :=
  ⟨fun h => h failure rfl, fun h _ he => Except.error.inj he ▸ h⟩

theorem KeepsChoices.bind (h : KeepsChoices x) {f : α → Except Failure β}
    (hf : ∀ a, KeepsChoices (f a)) : KeepsChoices (x >>= f) := by
  intro failure he
  rcases error_or_of_bind_eq_error he with he | ⟨a, -, he⟩
  · exact h failure he
  · exact hf a failure he

theorem KeepsChoices.of_exitCode (h : ∀ failure, x = .error failure → failure.exitCode ≠ .usage) :
    KeepsChoices x :=
  fun failure he choice => h failure he choice.exitCode

/-! What commands check beside their choices. -/

theorem Session.keepsChoices_organisation (given : Option String) :
    KeepsChoices (s.organisation given) := by
  unfold organisation
  split <;> simp

theorem PackageAction.keepsChoices_ofOptions (options : PackageOptions) :
    KeepsChoices (ofOptions options) := by
  have some_names (label : String) (values : List String) (f : List String → PackageAction) :
      KeepsChoices ((someNames label values).map fun names => some (f names)) := by
    unfold someNames
    dsimp only
    split <;> simp [Except.map]
  unfold ofOptions
  -- What can be wrong are too many actions, or names that are missing or not wanted.
  repeat' split
  all_goals first | exact some_names _ _ _ | simp

theorem ReportFormat.keepsChoices_ofText (text : String) : KeepsChoices (ofText text) := by
  unfold ofText
  dsimp only
  split_ifs <;> simp

theorem Session.keepsChoices_groupNames (values : List String) :
    KeepsChoices (groupNames values) := by
  unfold groupNames
  dsimp only
  split <;> simp

theorem keepsChoices_layerOfFile (files : Files) (path : String) :
    KeepsChoices (layerOfFile files path) := by
  unfold layerOfFile
  repeat' split
  all_goals simp

theorem Globals.keepsChoices_settings (globals : Globals) (vars : Variables) (files : Files) :
    KeepsChoices (globals.settings vars files) := by
  have layered : KeepsChoices (fileLayer vars files globals.config) := by
    unfold fileLayer
    repeat' split
    all_goals first | exact keepsChoices_layerOfFile _ _ | simp
  exact (layered.bind fun _ => keepsChoices_ok _).bind fun _ => keepsChoices_ok _

theorem Connection.keepsChoices_ofSettings (settings : Settings) :
    KeepsChoices (ofSettings settings) := by
  unfold ofSettings
  split
  · exact keepsChoices_error.mpr not_false
  · split
    · exact keepsChoices_error.mpr not_false
    · exact keepsChoices_ok _

/-! What is chosen once passes. -/

theorem Selector.PointsAtOne.keepsChoices (h : system.PointsAtOne) :
    KeepsChoices (SystemReference.ofOptions system.name system.uuid) := by
  unfold PointsAtOne at h
  cases hn : system.name <;> cases hu : system.uuid <;> rw [hn, hu] at h
  · -- neither
    exact absurd h (by simp [IsSingle])
  · exact keepsChoices_ok _
  · exact keepsChoices_ok _
  · -- both
    exact absurd h (by simp [IsSingle])

theorem Selector.PointsAtOne.keepsChoices_target (h : system.PointsAtOne)
    {next : String × SystemReference → Prepared} (hn : ∀ target, KeepsChoices (next target)) :
    KeepsChoices (s.target system >>= next) :=
  ((s.keepsChoices_organisation system.org).bind fun _ =>
    h.keepsChoices.bind fun _ => keepsChoices_ok _).bind hn

theorem Session.keepsChoices_unsubscribeTarget {entitlement serial : Option String} {all : Bool}
    (h : IsSingle [entitlement.isSome, serial.isSome, all]) :
    KeepsChoices (unsubscribeTarget entitlement serial all) := by
  unfold unsubscribeTarget
  split
  · exact keepsChoices_ok _
  · exact keepsChoices_ok _
  · exact keepsChoices_ok _
  · exact absurd h (by simp [IsSingle])

theorem Session.keepsChoices_releaseSource {source : Selector} {environment : Option String}
    (h : IsSingle [source.name.isSome, source.uuid.isSome, environment.isSome]) :
    KeepsChoices (releaseSource source environment) := by
  unfold releaseSource
  split
  · exact keepsChoices_ok _
  · exact keepsChoices_ok _
  · exact keepsChoices_ok _
  · next _ _ _ hu hn =>
    rw [hu, hn] at h
    exact absurd h (by simp [IsSingle])

end KeepsChoices

namespace ServerCommand

variable {command : ServerCommand}

/-- A command in order passes the second check. -/
theorem keepsChoices_prepare (h : command.IsInOrder) (s : Session) :
    KeepsChoices (command.prepare s) := by
  cases command with
  | list org environment poolId =>
    exact (s.keepsChoices_organisation org).bind fun _ => keepsChoices_ok _
  | register name org environment serviceLevel activationKeys release facts =>
    exact (s.keepsChoices_organisation org).bind fun _ => keepsChoices_ok _
  | taskInfo id => exact keepsChoices_ok _
  | removeDeletion uuid => exact keepsChoices_ok _
  | report org environment format =>
    apply (s.keepsChoices_organisation org).bind
    intro org
    exact (ReportFormat.keepsChoices_ofText format).bind fun _ => keepsChoices_ok _
  | releases source environment =>
    apply (s.keepsChoices_organisation source.org).bind
    intro org
    exact (Session.keepsChoices_releaseSource h).bind fun _ => keepsChoices_ok _
  | unsubscribe system entitlement serial all =>
    apply (Session.keepsChoices_unsubscribeTarget h.2).bind
    intro what
    exact h.1.keepsChoices_target fun ⟨_, _⟩ => keepsChoices_ok _
  | packages system environment options =>
    refine h.1.1.keepsChoices_target fun ⟨_, _⟩ => ?_
    refine (PackageAction.keepsChoices_ofOptions options).bind fun action => ?_
    cases action <;> exact keepsChoices_ok _
  | addSystemGroups system groups | removeSystemGroups system groups =>
    refine Selector.PointsAtOne.keepsChoices_target h fun ⟨_, _⟩ => ?_
    exact (Session.keepsChoices_groupNames groups).bind fun _ => keepsChoices_ok _
  | subscribe system pool quantity =>
    exact Selector.PointsAtOne.keepsChoices_target h fun ⟨_, _⟩ => keepsChoices_ok _
  | subscriptions | info | tasks | facts | unregister | update | addCustomInfo | viewCustomInfo
  | updateCustomInfo | removeCustomInfo =>
    exact h.1.keepsChoices_target fun ⟨_, _⟩ => keepsChoices_ok _

/-- A command in order ends in no failure of a choice, whatever the settings and the replies. -/
theorem keepsChoices_runUnder (h : command.IsInOrder) (settings : Settings) (globals : Globals)
    (s : Surroundings) : KeepsChoices (command.runUnder settings globals s).result := by
  unfold runUnder
  cases hc : Connection.ofSettings settings with
  | error failure =>
    exact keepsChoices_error.mpr (Connection.keepsChoices_ofSettings settings failure hc)
  | ok c =>
    dsimp only
    cases hp : command.prepare (.of settings globals) with
    | error failure => exact keepsChoices_error.mpr (keepsChoices_prepare h _ failure hp)
    | ok program =>
      -- Once a program runs, no command line is wrong.
      refine .of_exitCode fun failure he code => ?_
      have exits := ((ServerCommand.endsIn hp).failsFast_run (c := c) s).exitsBy
      exact exits.exitCode_ne_usage ((Ending.exitCode_of_error he).trans code)

end ServerCommand

/-! ## Commands about the settings -/

namespace ConfigCommand

variable (globals : Globals) (vars : Variables) (s : Surroundings)

theorem keepsChoices_newFile : KeepsChoices (newFile globals vars) := by
  unfold newFile
  split <;> simp

theorem keepsChoices_withDirectory (directory : Option String) :
    KeepsChoices (withDirectory s.files directory) := by
  unfold withDirectory
  split
  · exact keepsChoices_ok _
  · next directory =>
    cases s.files.makeDirectories directory <;> simp [Except.mapError]

theorem keepsChoices_beginFile (force : Bool) :
    KeepsChoices (beginFile globals vars force s).result := by
  unfold beginFile
  split
  · next failure he => exact keepsChoices_error.mpr (keepsChoices_newFile globals vars failure he)
  · next path directory _ =>
    split
    · exact keepsChoices_error.mpr (by simp)
    · split
      · next failure he =>
        exact keepsChoices_error.mpr (keepsChoices_withDirectory s directory failure he)
      · split
        · exact keepsChoices_error.mpr not_false
        · exact keepsChoices_ok _

theorem keepsChoices_showSettings : KeepsChoices (showSettings globals vars s).result := by
  have writable (settings : Settings) : KeepsChoices settings.toText := by
    unfold Settings.toText
    split <;> simp
  unfold showSettings
  split
  · exact keepsChoices_ok _
  · next failure he =>
    have shown := (globals.keepsChoices_settings vars s.files).bind writable
    exact keepsChoices_error.mpr (shown failure he)

/-- The commands about the settings have no choices. -/
theorem keepsChoices_run (command : ConfigCommand) :
    KeepsChoices (command.run globals vars s).result := by
  cases command with
  | display => exact keepsChoices_showSettings globals vars s
  | locate => exact keepsChoices_ok _
  | init force => exact keepsChoices_beginFile globals vars s force

end ConfigCommand

namespace Invocation

variable {i : Invocation}

theorem isInOrder_command {arguments : List String} (h : ofArguments arguments = .ok i)
    {command : ServerCommand} (hc : i.command = .server command) : command.IsInOrder := by
  obtain ⟨levels, hl, h⟩ := exists_of_bind_eq_ok h
  split at h
  · next asked ha =>
    cases h
    obtain rfl : asked = .server command := hc
    obtain ⟨rule, name, found, hr, fits, hs⟩ :=
      exists_of_command? (CommandRule.accepts_read hl) ha
    exact isInOrder_of_serverCommand? hr fits hs
  · cases h

theorem keepsChoices_run
    (h : ∀ command, i.command = .server command → command.IsInOrder) (vars : Variables)
    (s : Surroundings) : KeepsChoices (i.run vars s).result := by
  cases hc : i.command with
  | server command =>
    cases hs : i.globals.settings vars s.files with
    | error failure =>
      rw [run_of_settings_eq_error hs hc]
      exact keepsChoices_error.mpr (i.globals.keepsChoices_settings vars s.files failure hs)
    | ok settings =>
      rw [run_eq_runUnder hs hc]
      exact ServerCommand.keepsChoices_runUnder (h command hc) settings _ s
  | config command =>
    simp only [run, hc]
    exact ConfigCommand.keepsChoices_run i.globals vars s command
  | completion shell =>
    simp only [run, hc]
    exact keepsChoices_ok _

/-- **An accepted command line is in order**: what its command has to choose is chosen once, and
so no run of it ends in a failure of a choice, whatever the settings and the replies. -/
theorem isInOrder_of_ofArguments {arguments : List String} (h : ofArguments arguments = .ok i) :
    (∀ command, i.command = .server command → command.IsInOrder ∧
        ∀ settings s, KeepsChoices (command.runUnder settings i.globals s).result) ∧
      ∀ vars s, KeepsChoices (i.run vars s).result := by
  have order {command : ServerCommand} (hc : i.command = .server command) :
      command.IsInOrder := isInOrder_command h hc
  refine ⟨fun command hc => ⟨order hc, fun settings s => ?_⟩, ?_⟩
  · exact ServerCommand.keepsChoices_runUnder (order hc) settings i.globals s
  · exact keepsChoices_run fun command => order

/-- Global options may stand on both sides of the command, and values behind an equals sign. -/
theorem isInOrder_of_ofArguments_of_unsubscribe :
    let arguments :=
      ["-v", "unsubscribe", "--uuid=u", "--all", "-o", "ACME", "--url", "http://h/api"]
    let command : ServerCommand :=
      .unsubscribe { org := some "ACME", uuid := some "u" } none none true
    let i : Invocation :=
      { globals := { verbose := true, url := some "http://h/api" }, command := .server command }
    ofArguments arguments = .ok i ∧ command.IsInOrder ∧
      ∀ vars s, KeepsChoices (i.run vars s).result := by
  intro arguments command i
  have accepted : ofArguments arguments = .ok i := by decide +kernel
  obtain ⟨order, runs⟩ := isInOrder_of_ofArguments accepted
  exact ⟨accepted, (order command rfl).1, runs⟩

end Invocation

end HostConsole
