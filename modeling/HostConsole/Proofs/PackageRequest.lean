import HostConsole.Proofs.Choices
import HostConsole.Proofs.Occurrences
import HostConsole.Proofs.PackageChoice

/-!
# Requests about packages

No names stand for all packages, so it matters when a request has none. That is so only where an
update of all packages is asked for by its own option; a list that comes down to nothing is a
mistake and ends the run.

The values of an option are those of its occurrences on the command line, cut at commas. What comes
of the options is `PackageAction.ofOptions_cases`; that a run sends nothing else follows from the one
change that the program of the command can come to.

The options are not the first thing that a run looks at. Where its settings are no good, or no
organisation is given, it ends with that and is silent about the options; in no case is anything
sent.

## Main definitions

* `PackageOptions.AreFrom`: the options that occur on a command line

## Main results

* `Session.changesOnce_packages`: the one change that the command asks for
* `Invocation.requests_packages`: which requests a command line about packages leads to
-/

namespace HostConsole

open CommandLine Program

/-! ## The options of a command line -/

namespace PackageOptions

variable {o : PackageOptions} {kind : PackageKind}

/-- The options are what occurs: an option that occurs has the values between the commas of its
texts, and one that does not has none. -/
structure AreFrom (o : PackageOptions) (occurrences : List Occurrence) : Prop where
  updateAll_iff : o.updateAll = true ↔ Given "all" occurrences
  values?_iff : ∀ kind values, o.values? kind = some values ↔
    Given kind.option occurrences ∧
      values = (textsOf kind.option occurrences).flatMap commaPieces

/-- The options of package actions are cut at commas. -/
theorem splits_of_option : ∀ rule ∈ console.command? "packages", ∀ option ∈ rule.level.rules,
    ∀ kind ∈ PackageKind.all, option.identity = kind.option → option.splits = true := by
  decide +kernel

theorem values?_packageOptions (found : Found) (kind : PackageKind) :
    found.packageOptions.values? kind = found.values? kind.option := by
  cases kind <;> rfl

theorem areFrom_foundOf {arguments : List String} {occurrences : List Occurrence}
    (h : Gives arguments "packages" occurrences) :
    (foundOf occurrences).packageOptions.AreFrom occurrences := by
  refine ⟨has_foundOf occurrences "all", fun kind values => ?_⟩
  obtain ⟨rule, named, known⟩ := h.exists_rule
  have splits (met : Occurrence) (mem : met ∈ occurrences)
      (same : met.rule.identity = kind.option) : met.rule.splits = true :=
    splits_of_option rule named met.rule (known met mem) kind kind.mem_all same
  rw [values?_packageOptions, Found.values?, values_foundOf_of_splits splits, ← has_foundOf]
  -- An option has values exactly if it is found, though perhaps none of them.
  split
  · next given => simp [given, eq_comm]
  · next absent => simp [absent]

end PackageOptions

/-- The command about packages has the options that are found. -/
theorem CommandLine.eq_of_serverCommand?_packages {name : String} {found : Found}
    {system : Selector} {environment : Option String} {options : PackageOptions}
    (h : serverCommand? name found = some (.packages system environment options)) :
    name = "packages" ∧ options = found.packageOptions := by
  unfold serverCommand? at h
  dsimp only at h
  split at h <;> cases h
  exact ⟨rfl, rfl⟩

/-! ## The run of the command -/

namespace Session

variable {s : Session} {system : Selector} {environment : Option String}
  {options : PackageOptions}

/-- The one change that the command asks for is the action of its options. -/
theorem changesOnce_packages {program : Program ExitCode}
    (h : s.packages system environment options = .ok program) :
    program.ChangesOnce fun ch =>
      ∃ uuid action, ch = .packageAction uuid action ∧ options.Selects action := by
  obtain ⟨org, reference, -, h⟩ := exists_target h
  obtain ⟨selected, ho, h⟩ := exists_of_bind_eq_ok h
  cases selected with
  | none =>
    cases h
    have looks : (s.installedPackages org reference environment).Inquires :=
      (Resolution.inquires_system org reference environment).bind fun machine =>
        (inquires_look _ _).bind fun _ => trivial
    exact looks.changesOnce
  | some action =>
    cases h
    refine (Resolution.inquires_system org reference environment).bind fun machine => ?_
    exact (changesOnce_performAction machine.uuid action).mono fun ch same =>
      ⟨machine.uuid, action, same, PackageAction.selects_of_ofOptions ho⟩

/-- The system of a command that is in order is given. -/
theorem exists_reference (order : system.PointsAtOne) :
    ∃ reference, SystemReference.ofOptions system.name system.uuid = .ok reference := by
  cases hr : SystemReference.ofOptions system.name system.uuid with
  | ok reference => exact ⟨reference, rfl⟩
  | error failure =>
    have choice : failure.IsOfChoice := by
      unfold SystemReference.ofOptions at hr
      split at hr <;> cases hr <;> trivial
    exact absurd choice (order.keepsChoices failure hr)

/-- Mistaken options are refused once the organisation is known. -/
theorem packages_of_mistakes {failure : Failure} (order : system.PointsAtOne)
    (mistakes : options.Mistakes failure) :
    s.packages system environment options =
      s.organisation system.org >>= fun _ => .error failure := by
  obtain ⟨reference, hr⟩ := exists_reference order
  unfold packages target
  cases s.organisation system.org with
  | error missing => rfl
  | ok org =>
    simp only [hr, PackageAction.ofOptions_of_mistakes mistakes]
    rfl

end Session

namespace Invocation

variable {i : Invocation} {system : Selector} {environment : Option String}
  {options : PackageOptions} {vars : Variables} {s : Surroundings}

/-- Every change that a run asks for is the action of the options. -/
theorem selects_of_mem_run (hc : i.command = .server (.packages system environment options))
    {t : Turn} (ht : t ∈ (i.run vars s).turns) {ch : Change} (hch : t.call = .change ch) :
    ∃ c session uuid action, i.open? vars s.files = .ok (c, session) ∧
      ch = .packageAction uuid action ∧ t.request = c.wire ch.request ∧
      options.Selects action := by
  obtain ⟨c, session, program, ho, hp, he⟩ := exists_program_of_mem hc ht
  rw [he] at ht
  obtain ⟨uuid, action, same, selects⟩ :=
    ((Session.changesOnce_packages hp).phased_run s).allowed_of_mem ht hch
  have sent : t = c.turn t.call t.delivery := program.turn_of_mem_turns_run ht
  refine ⟨c, session, uuid, action, ho, same, ?_, selects⟩
  rw [sent, hch]
  rfl

/-- A run with mistaken options ends at its settings, at the organisation, or at the mistake. -/
theorem run_of_mistakes (hc : i.command = .server (.packages system environment options))
    (order : system.PointsAtOne) {failure : Failure} (mistakes : options.Mistakes failure) :
    (i.run vars s).turns = [] ∧
      (∀ earlier, i.open? vars s.files = .error earlier →
        (i.run vars s).result = .error earlier) ∧
      ∀ c session, i.open? vars s.files = .ok (c, session) →
        (i.run vars s).exitCode = .usage ∧
        (system.org.or session.org = none →
          (i.run vars s).result = .error (.usage .organisationMissing)) ∧
        (system.org.or session.org ≠ none → (i.run vars s).result = .error failure) :=
  run_of_refused hc mistakes.exitCode fun _ => Session.packages_of_mistakes order mistakes

/-- **Which requests a command line about packages leads to.** The options of the command are what
occurs behind its name. A request without names updates all packages, and that was asked for by
itself; any other has the clean values of the one option that was given. Options that are mistaken
lead to no request. -/
theorem requests_packages {arguments : List String} (h : ofArguments arguments = .ok i)
    (hc : i.command = .server (.packages system environment options)) :
    (∃ occurrences, Gives arguments "packages" occurrences ∧ options.AreFrom occurrences) ∧
    ∀ vars s,
      (∀ t ∈ (i.run vars s).turns, ∀ ch, t.call = .change ch →
        ∃ c session uuid action, i.open? vars s.files = .ok (c, session) ∧
          ch = .packageAction uuid action ∧ t.request = c.wire ch.request ∧
          (action.names = [] →
            ch.request.method = .put ∧
            ch.request.body = some (.object [("packages", .array [])]) ∧
            options.updateAll = true ∧ options.AsksOnly .update ∧
            ∀ value ∈ options.update.getD [], Text.trimmed value = "") ∧
          (action.names ≠ [] →
            ch.request.method = Change.actionMethod action ∧
            ch.request.body = some (Change.actionBody action) ∧
            (∃ kind values, options.values? kind = some values ∧ options.updateAll = false ∧
              options.AsksOnly kind ∧ action = kind.action (Text.cleanList values)) ∧
            ∀ name ∈ action.names, name ≠ "" ∧ Text.trimmed name = name)) ∧
      ∀ failure, options.Mistakes failure →
        (i.run vars s).turns = [] ∧
        (∀ earlier, i.open? vars s.files = .error earlier →
          (i.run vars s).result = .error earlier) ∧
        ∀ c session, i.open? vars s.files = .ok (c, session) →
          (i.run vars s).exitCode = .usage ∧
          (system.org.or session.org = none →
            (i.run vars s).result = .error (.usage .organisationMissing)) ∧
          (system.org.or session.org ≠ none → (i.run vars s).result = .error failure) := by
  refine ⟨?_, fun vars s => ⟨fun t ht ch hch => ?_, fun failure mistakes => ?_⟩⟩
  · obtain ⟨name, occurrences, gives, found⟩ := exists_gives h hc
    obtain ⟨rfl, rfl⟩ := eq_of_serverCommand?_packages found
    exact ⟨occurrences, gives, PackageOptions.areFrom_foundOf gives⟩
  · obtain ⟨c, session, uuid, action, ho, rfl, sent, selects⟩ := selects_of_mem_run hc ht hch
    refine ⟨c, session, uuid, action, ho, rfl, sent, fun no_names => ?_, fun some_names => ?_⟩
    · obtain ⟨rfl, all⟩ := selects.of_no_names no_names
      exact ⟨rfl, rfl, all⟩
    · exact ⟨rfl, rfl, selects.of_names some_names⟩
  · have order : (ServerCommand.packages system environment options).IsInOrder :=
      isInOrder_command h hc
    exact run_of_mistakes hc order.1.1 mistakes

/-- A list of blanks is no list of all packages: nothing is sent for it. -/
theorem requests_packages_of_blank_list :
    let arguments :=
      ["--url", "http://h/api", "packages", "-o", "ACME", "--uuid", "u", "--update", " , "]
    let i : Invocation :=
      { globals := { url := some "http://h/api" }
        command := .server (.packages { org := some "ACME", uuid := some "u" } none
          { update := some [" ", " "] }) }
    ofArguments arguments = .ok i ∧ ∀ vars s, (i.run vars s).turns = [] := by
  intro arguments i
  have accepted : ofArguments arguments = .ok i := by decide +kernel
  let options : PackageOptions := { update := some [" ", " "] }
  have only : options.AsksOnly .update := by
    intro other asked
    revert asked
    cases other <;> decide
  have mistake : options.Mistakes (.emptyPackageList "update") :=
    @PackageOptions.Mistakes.empty options .update rfl rfl only (by decide)
  obtain ⟨-, runs⟩ := requests_packages accepted rfl
  exact ⟨accepted, fun vars s => ((runs vars s).2 _ mistake).1⟩

/-- Without an organisation two kinds of actions are not told of: the organisation comes first. -/
theorem packages_without_organisation :
    let arguments :=
      ["--url", "http://h/api", "packages", "--uuid", "u", "--install", "a", "--remove", "b"]
    let options : PackageOptions := { install := some ["a"], remove := some ["b"] }
    let i : Invocation :=
      { globals := { url := some "http://h/api" }
        command := .server (.packages { uuid := some "u" } none options) }
    ofArguments arguments = .ok i ∧ options.Mistakes .conflictingPackageActions ∧
      (i.run [] (.replying [])).result = .error (.usage .organisationMissing) := by
  intro arguments options i
  have accepted : ofArguments arguments = .ok i := by decide +kernel
  have mistake : options.Mistakes .conflictingPackageActions :=
    @PackageOptions.Mistakes.twice options .install .remove (by decide) (.inl rfl) (.inl rfl)
  exact ⟨accepted, mistake, by decide +kernel⟩

end Invocation

end HostConsole
