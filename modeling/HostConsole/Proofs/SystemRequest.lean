import HostConsole.Proofs.GivenValues
import HostConsole.Proofs.Reference
import HostConsole.Proofs.SentFields

/-!
# Requests about systems

A system is registered and updated with what the user gave, and with nothing else: an option that
does not occur leaves no field behind, and one that occurs is sent as it was given, also where its
text is empty. A field that came to be dropped, or was sent without having been asked for, would
overwrite what the server has.

On its way a value goes through the options of the command line (`IsGiven`), the program of the
command, and the fields of a body (`AreFields`). The only value that a user does not give is the
number of an environment, which is looked up by name right before the change.

## Main definitions

* `GivesRegistration`, `GivesUpdate`: what a command is told by the options that occur
* `IsNumberOf`: the number of an environment is the one that was told of

## Main results

* `Session.exists_register`, `Session.exists_update`: the programs of the commands
* `Invocation.sends_what_is_given`: what is sent when a system is registered or updated
-/

namespace HostConsole

open CommandLine Program

/-! ## The options of the commands -/

/-- What a system is registered with are the options that occur. -/
structure GivesRegistration (occurrences : List Occurrence) (name : String)
    (environment serviceLevel : Option String) (activationKeys : List String)
    (release : Option String) (facts : List String) : Prop where
  name : IsGiven "name" occurrences (some name)
  environment : IsGiven "environment" occurrences environment
  serviceLevel : IsGiven "servicelevel" occurrences serviceLevel
  activationKeys : activationKeys = (textsOf "activationkey" occurrences).flatMap commaPieces
  release : IsGiven "release" occurrences release
  facts : AreGiven "fact" occurrences (Text.pairs facts)

/-- What is to be different about a system are the options that occur. -/
structure GivesUpdate (occurrences : List Occurrence) (newName newEnvironment description location
    release serviceLevel : Option String) : Prop where
  newName : IsGiven "new_name" occurrences newName
  newEnvironment : IsGiven "new_environment" occurrences newEnvironment
  description : IsGiven "description" occurrences description
  location : IsGiven "location" occurrences location
  release : IsGiven "release" occurrences release
  serviceLevel : IsGiven "servicelevel" occurrences serviceLevel

namespace CommandLine

/-- The options for the texts of a system. -/
def systemTexts : List String :=
  ["name", "environment", "servicelevel", "release", "new_name", "new_environment", "description",
    "location"]

/-- Such an option takes one text, once, at every command. -/
theorem takes_of_systemText : ∀ command ∈ console.commands, ∀ rule ∈ command.level.rules,
    rule.identity ∈ systemTexts → rule.Takes 1 ∧ rule.action = .once := by
  decide +kernel

/-- A fact is a key with a value. -/
theorem takes_of_fact : ∀ command ∈ console.commands, ∀ rule ∈ command.level.rules,
    rule.identity = "fact" → rule.Takes 2 := by
  decide +kernel

/-- Keys are given between commas. -/
theorem splits_of_activationKey : ∀ command ∈ console.commands, ∀ rule ∈ command.level.rules,
    rule.identity = "activationkey" → rule.splits = true := by
  decide +kernel

variable {arguments : List String} {name : String} {occurrences : List Occurrence}

/-- What holds of the options of every command holds of those that occur. -/
theorem Gives.forall_rule {P : OptionRule → Prop} (h : Gives arguments name occurrences)
    (hp : ∀ command ∈ console.commands, ∀ rule ∈ command.level.rules, P rule) :
    ∀ o ∈ occurrences, P o.rule := by
  obtain ⟨command, named, known⟩ := h.exists_rule
  intro o mem
  exact hp command (List.mem_of_find?_eq_some named) o.rule (known o mem)

theorem Gives.isGiven (h : Gives arguments name occurrences) (met : AreMet occurrences)
    {identity : String} (text : identity ∈ systemTexts) :
    IsGiven identity occurrences ((foundOf occurrences).value? identity) := by
  refine isGiven_value? met fun o mem same => ?_
  exact h.forall_rule takes_of_systemText o mem (same ▸ text)

/-- The value of an option that has to be there is given. -/
theorem Gives.isGiven_of_isRequired (h : Gives arguments name occurrences)
    (met : AreMet occurrences) {command : CommandRule}
    (named : console.command? name = some command)
    (fits : command.level.Fits (foundOf occurrences)) (rule : OptionRule)
    (hr : rule ∈ command.level.options) (required : rule.isRequired = true)
    (text : rule.identity ∈ systemTexts) :
    IsGiven rule.identity occurrences (some ((foundOf occurrences).value rule.identity)) := by
  have known := List.mem_of_find?_eq_some named
  have takes_some : ∀ other ∈ command.level.rules, other.identity = rule.identity →
      0 < other.least := by
    intro other mem same
    obtain ⟨⟨one, -, -⟩, -⟩ := takes_of_systemText command known other mem (same ▸ text)
    omega
  -- It was met, as the command is complete, and so it has a value.
  have there : ((foundOf occurrences).value? rule.identity).isSome = true :=
    (fits.isFrom.isSome_value? takes_some).trans (fits.has_of_isRequired hr required)
  obtain ⟨value, hv⟩ := Option.isSome_iff_exists.mp there
  have given := h.isGiven met text
  rw [hv] at given
  rwa [Found.value, hv]

/-- The command that registers a system has what its options give. -/
theorem givesRegistration_of_serverCommand? {rule : CommandRule}
    (gives : Gives arguments name occurrences) (met : AreMet occurrences)
    (named : console.command? name = some rule) (fits : rule.level.Fits (foundOf occurrences))
    {systemName : String} {org environment serviceLevel : Option String}
    {activationKeys : List String} {release : Option String} {facts : List String}
    (found : serverCommand? name (foundOf occurrences) = some
      (.register systemName org environment serviceLevel activationKeys release facts)) :
    name = "register" ∧
      GivesRegistration occurrences systemName environment serviceLevel activationKeys release
        facts := by
  unfold serverCommand? at found
  dsimp only at found
  -- Only one name gives a registration.
  split at found <;> cases found
  refine ⟨rfl, ?_⟩
  have systemName : IsGiven "name" occurrences (some ((foundOf occurrences).value "name")) := by
    cases named
    exact gives.isGiven_of_isRequired met rfl fits (needed (valued "name" "name")) (by decide) rfl
      (by simp [systemTexts, needed, valued])
  have keys : (foundOf occurrences).values "activationkey" =
      (textsOf "activationkey" occurrences).flatMap commaPieces :=
    values_foundOf_of_splits (gives.forall_rule splits_of_activationKey)
  have facts : AreGiven "fact" occurrences (Text.pairs ((foundOf occurrences).values "fact")) :=
    areGiven_pairs met (gives.forall_rule takes_of_fact)
  exact ⟨systemName, gives.isGiven met (by simp [systemTexts]),
    gives.isGiven met (by simp [systemTexts]), keys, gives.isGiven met (by simp [systemTexts]),
    facts⟩

/-- The command that updates a system has what its options give. -/
theorem givesUpdate_of_serverCommand? (gives : Gives arguments name occurrences)
    (met : AreMet occurrences) {system : Selector} {environment newName newEnvironment description
      location release serviceLevel : Option String}
    (found : serverCommand? name (foundOf occurrences) = some
      (.update system environment newName newEnvironment description location release
        serviceLevel)) :
    name = "update" ∧
      GivesUpdate occurrences newName newEnvironment description location release
        serviceLevel := by
  unfold serverCommand? at found
  dsimp only at found
  split at found <;> cases found
  refine ⟨rfl, ?_⟩
  -- Each of the options takes one text.
  constructor <;> exact gives.isGiven met (by simp [systemTexts])

end CommandLine

/-! ## The programs of the commands -/

/-- The number of an environment that is named is the one of the first environment that the turn
before was told of. Where none is named there is no number. -/
def IsNumberOf (org : String) (environment : Option String) (turns : List Turn) (t : Turn)
    (number : Option Nat) : Prop :=
  match environment with
  | none => number = none
  | some name => ∃ before asked first others, turns = before ++ [asked, t] ∧
      asked.call = .lookup (.environments org (some name)) ∧
      asked.environments? = some (first :: others) ∧ number = some first.id

theorem Systems.isNumberOf_of_gives {c : Connection} {s : Surroundings} {org : String}
    {environment : Option String} {asked : List Turn} {number : Option Nat}
    (h : (environmentId org environment).Gives c s asked number) (before : List Turn) (t : Turn) :
    IsNumberOf org environment (before ++ asked ++ [t]) t number := by
  cases environment with
  | none =>
    obtain ⟨rfl, hr⟩ := h
    exact (Except.ok.inj hr).symm
  | some name =>
    obtain ⟨looking, ending, first, s', hl, he, rfl⟩ := Gives.of_bind h
    obtain ⟨asked, others, rfl, asks, told⟩ := Route.turn_of_environment hl
    obtain ⟨rfl, hr⟩ := he
    refine ⟨before, asked, first, others, ?_, asks, told, (Except.ok.inj hr).symm⟩
    exact List.append_assoc before _ [t]

/-- What is looked up before a system is updated: the system, and the number of its new
environment. -/
def Systems.lookups (org : String) (reference : SystemReference)
    (environment newEnvironment : Option String) : Program (Machine × Option Nat) := do
  let machine ← Resolution.system org reference environment
  let number ← environmentId org newEnvironment
  return (machine, number)

theorem Systems.inquires_lookups (org : String) (reference : SystemReference)
    (environment newEnvironment : Option String) :
    (lookups org reference environment newEnvironment).Inquires := by
  apply (Resolution.inquires_system org reference environment).bind
  intro machine
  apply (inquires_environmentId org newEnvironment).bind
  intro number
  trivial

namespace Session

variable {s : Session} {program : Program ExitCode}

/-- A system is registered behind the lookup of its environment. -/
theorem exists_register {name : String} {org environment serviceLevel : Option String}
    {activationKeys : List String} {release : Option String} {facts : List String}
    (h : s.register name org environment serviceLevel activationKeys release facts = .ok program) :
    ∃ place, ∃ rest : Option Nat → Option Machine → Program ExitCode,
      s.organisation org = .ok place ∧ (∀ number record, (rest number record).Follows none) ∧
      program = Systems.environmentId place environment >>= fun number =>
        ask (.change (.register
          { name, org := place, environmentId := number
            activationKeys := Text.cleanList activationKeys
            consumerType := Registration.systemType, release, serviceLevel
            facts := Dictionary.ofList (Text.pairs facts) })) none (rest number) := by
  obtain ⟨place, ho, h⟩ := exists_of_bind_eq_ok h
  cases h
  let rest (record : Option Machine) : Program ExitCode := do
    let _ ← require (Systems.confirmed record "register" name)
    succeed ("Successfully registered system [ " ++ name ++ " ]")
  have follows (record : Option Machine) : (rest record).Follows none :=
    (follows_require _).bind fun _ => trivial
  exact ⟨place, fun _ => rest, ho, fun _ => follows, bind_assoc _ _ _⟩

/-- A system is updated behind its own lookup and the one of its new environment. -/
theorem exists_update {system : Selector} {environment : Option String}
    {changes : Systems.Changes} (h : s.update system environment changes = .ok program) :
    ∃ place reference, ∃ rest : Machine × Option Nat → Option Machine → Program ExitCode,
      s.target system = .ok (place, reference) ∧
      (∀ found record, (rest found record).Follows none) ∧
      program = Systems.lookups place reference environment changes.environment >>= fun found =>
        ask (.change (.update found.1.uuid
          { name := changes.name, description := changes.description, location := changes.location
            release := changes.release, serviceLevel := changes.serviceLevel
            environmentId := found.2 })) none (rest found) := by
  obtain ⟨place, reference, ht, h⟩ := exists_target h
  cases h
  let settled (machine : Machine) (record : Option Machine) : Program Machine := do
    let _ ← require (Systems.confirmed record "update" machine.name)
    return machine
  let rest (machine : Machine) (record : Option Machine) : Program ExitCode :=
    settled machine record >>= fun before =>
      succeed ("Successfully updated system [ " ++ before.name ++ " ]")
  have settles (machine : Machine) (record : Option Machine) :
      (settled machine record).Follows none :=
    (follows_require _).bind fun _ => trivial
  have follows (machine : Machine) (record : Option Machine) : (rest machine record).Follows none :=
    (settles machine record).bind fun _ => trivial
  refine ⟨place, reference, fun found => rest found.1, ht, fun found => follows found.1, ?_⟩
  simp only [Systems.update, Systems.lookups, bind_assoc, Program.pure_bind]
  rfl

end Session

/-! ## What is sent -/

namespace Invocation

variable {i : Invocation} {vars : Variables} {s : Surroundings} {t : Turn}

/-- A request that is not about looking something up is the one of a change. -/
theorem exists_change_of_method (ht : t ∈ (i.run vars s).turns) (other : t.request.method ≠ .get) :
    ∃ ch, t.call = .change ch ∧ t.request.body = ch.request.body := by
  obtain ⟨-, sent, -⟩ := i.isOrderly_run vars s
  obtain ⟨c, session, -, he⟩ := sent t ht
  have request : t.request = c.wire t.call.request := congrArg Turn.request he
  cases hc : t.call with
  | lookup l =>
    rw [request, hc] at other
    exact absurd l.request_method other
  | change ch =>
    refine ⟨ch, rfl, ?_⟩
    rw [request, hc]
    rfl

/-- The registration that a run asks for. -/
theorem registers_run {name : String} {org environment serviceLevel : Option String}
    {activationKeys : List String} {release : Option String} {facts : List String}
    (hc : i.command = .server
      (.register name org environment serviceLevel activationKeys release facts))
    (ht : t ∈ (i.run vars s).turns) {ch : Change} (hch : t.call = .change ch) :
    ∃ c session place number, i.open? vars s.files = .ok (c, session) ∧
      session.organisation org = .ok place ∧
      IsNumberOf place environment (i.run vars s).turns t number ∧
      ch = .register
        { name, org := place, environmentId := number
          activationKeys := Text.cleanList activationKeys
          consumerType := Registration.systemType, release, serviceLevel
          facts := Dictionary.ofList (Text.pairs facts) } := by
  obtain ⟨c, session, program, ho, hp, he⟩ := exists_program_of_mem hc ht
  rw [he] at ht ⊢
  obtain ⟨place, rest, known, follows, same⟩ := Session.exists_register hp
  obtain ⟨number, before, gives, asked, turns⟩ := exists_gives_of_change
    (Systems.inquires_environmentId place environment) same follows ht hch
  refine ⟨c, session, place, number, ho, known, ?_, asked⟩
  rw [turns]
  -- There is nothing before the environment.
  exact Systems.isNumberOf_of_gives gives [] t

/-- The update that a run asks for. -/
theorem updates_run {system : Selector} {environment newName newEnvironment description location
      release serviceLevel : Option String}
    (hc : i.command = .server (.update system environment newName newEnvironment description
      location release serviceLevel))
    (ht : t ∈ (i.run vars s).turns) {ch : Change} (hch : t.call = .change ch) :
    ∃ c session place number uuid, i.open? vars s.files = .ok (c, session) ∧
      session.organisation system.org = .ok place ∧
      IsNumberOf place newEnvironment (i.run vars s).turns t number ∧
      ch = .update uuid
        { name := newName, description, location, release, serviceLevel
          environmentId := number } := by
  obtain ⟨c, session, program, ho, hp, he⟩ := exists_program_of_mem hc ht
  rw [he] at ht ⊢
  obtain ⟨place, reference, rest, target, follows, same⟩ := Session.exists_update hp
  obtain ⟨org, known, target⟩ := exists_of_bind_eq_ok target
  obtain ⟨pointed, -, target⟩ := exists_of_bind_eq_ok target
  cases target
  obtain ⟨⟨machine, number⟩, found, gives, asked, turns⟩ := exists_gives_of_change
    (Systems.inquires_lookups place reference environment newEnvironment) same follows ht hch
  -- The environment is looked up behind the system, right before the change.
  obtain ⟨before, after, machine', s', -, numbered, rfl⟩ := gives.of_bind
  obtain ⟨asking, ending, number', s'', numbers, ⟨silent, hr⟩, rfl⟩ := numbered.of_bind
  obtain rfl : [] = ending := silent
  cases hr
  refine ⟨c, session, place, number, machine.uuid, ho, known, ?_, asked⟩
  rw [turns, List.append_nil]
  exact Systems.isNumberOf_of_gives numbers before t

/-- **What is sent when a system is registered or updated** is what the user gave.

The body of a registration has the name, the type and the facts, of which each key has the last
value that was given for it. It has keys, a release and a service level if these were given, and
the number of the environment that was named. The body of an update has a field for each option
that occurs. Neither has anything else. -/
theorem sends_what_is_given {arguments : List String} (h : ofArguments arguments = .ok i) :
    (∀ name org environment serviceLevel activationKeys release facts,
      i.command = .server
        (.register name org environment serviceLevel activationKeys release facts) →
      (∃ occurrences, Gives arguments "register" occurrences ∧
        GivesRegistration occurrences name environment serviceLevel activationKeys release facts) ∧
      ∀ vars s, ∀ t ∈ (i.run vars s).turns, t.request.method = .post →
        ∃ c session place number table fields,
          i.open? vars s.files = .ok (c, session) ∧ session.organisation org = .ok place ∧
          IsNumberOf place environment (i.run vars s).turns t number ∧
          HoldsLast table (Text.pairs facts) ∧
          t.request.body = some (.object fields) ∧
          AreFields fields
            [("name", some (.string name)), ("cType", some (.string "system")),
              ("facts", some (Json.ofDictionary Json.string table)),
              ("environment_id", number.map Json.ofNat),
              ("activation_keys", someTexts (Text.cleanList activationKeys)),
              ("releaseVer", release.map Json.string),
              ("serviceLevel", serviceLevel.map Json.string)]) ∧
    ∀ system environment newName newEnvironment description location release serviceLevel,
      i.command = .server (.update system environment newName newEnvironment description location
        release serviceLevel) →
      (∃ occurrences, Gives arguments "update" occurrences ∧
        GivesUpdate occurrences newName newEnvironment description location release
          serviceLevel) ∧
      ∀ vars s, ∀ t ∈ (i.run vars s).turns, t.request.method = .put →
        ∃ c session place number fields,
          i.open? vars s.files = .ok (c, session) ∧ session.organisation system.org = .ok place ∧
          IsNumberOf place newEnvironment (i.run vars s).turns t number ∧
          t.request.body = some (.object [("system", .object fields)]) ∧
          AreFields fields
            [("name", newName.map Json.string), ("description", description.map Json.string),
              ("location", location.map Json.string), ("releaseVer", release.map Json.string),
              ("serviceLevel", serviceLevel.map Json.string),
              ("environment_id", number.map Json.ofNat)] := by
  constructor
  · intro name org environment serviceLevel activationKeys release facts hc
    constructor
    · obtain ⟨rule, asked, occurrences, gives, met, named, fits, found⟩ := exists_occurrences h hc
      obtain ⟨rfl, given⟩ := givesRegistration_of_serverCommand? gives met named fits found
      exact ⟨occurrences, gives, given⟩
    · intro vars s t ht post
      obtain ⟨ch, hch, body⟩ := exists_change_of_method ht (by simp [post])
      obtain ⟨c, session, place, number, ho, known, numbered, rfl⟩ := registers_run hc ht hch
      obtain ⟨fields, he, are_fields⟩ := Registration.areFields_body _
      exact ⟨c, session, place, number, _, fields, ho, known, numbered, holdsLast_ofList _,
        body.trans (congrArg some he), are_fields⟩
  · intro system environment newName newEnvironment description location release serviceLevel hc
    constructor
    · obtain ⟨rule, asked, occurrences, gives, met, -, -, found⟩ := exists_occurrences h hc
      obtain ⟨rfl, given⟩ := givesUpdate_of_serverCommand? gives met found
      exact ⟨occurrences, gives, given⟩
    · intro vars s t ht put
      obtain ⟨ch, hch, body⟩ := exists_change_of_method ht (by simp [put])
      obtain ⟨c, session, place, number, uuid, ho, known, numbered, rfl⟩ := updates_run hc ht hch
      obtain ⟨fields, he, are_fields⟩ := SystemUpdate.areFields_body _
      exact ⟨c, session, place, number, fields, ho, known, numbered,
        body.trans (congrArg some he), are_fields⟩

/-- An empty text is sent as it is given, and a blank key is not. -/
theorem sends_what_is_given_of_empty_texts :
    let registering := ["--url", "http://h/api", "register", "-o", "ACME", "--name", "box",
      "--activationkey", " a , ,b", "--release", "", "--fact", "cpu", "2", "--fact", "cpu", "4"]
    let updating :=
      ["--url", "http://h/api", "update", "-o", "ACME", "--uuid", "u", "--description="]
    let register : Invocation :=
      { globals := { url := some "http://h/api" }
        command := .server (.register "box" (some "ACME") none none [" a ", " ", "b"] (some "")
          ["cpu", "2", "cpu", "4"]) }
    let update : Invocation :=
      { globals := { url := some "http://h/api" }
        command := .server (.update { org := some "ACME", uuid := some "u" } none none none
          (some "") none none none) }
    let record := "\x7b\"uuid\":\"u\",\"name\":\"box\"\x7d"
    (ofArguments registering = .ok register ∧
      ∃ t ∈ (register.run [] (.replying [record])).turns, t.request.method = .post ∧
        ∃ fields, t.request.body = some (.object fields) ∧
          ("activation_keys", .array [.string "a", .string "b"]) ∈ fields ∧
          ("releaseVer", .string "") ∈ fields ∧ ∀ number, ("environment_id", number) ∉ fields) ∧
    (ofArguments updating = .ok update ∧
      ∃ t ∈ (update.run [] (.replying [record, record])).turns, t.request.method = .put ∧
        ∃ fields, t.request.body = some (.object [("system", .object fields)]) ∧
          ∀ key value, (key, value) ∈ fields ↔ key = "description" ∧ value = .string "") := by
  intro registering updating register update record
  constructor
  · have accepted : ofArguments registering = .ok register := by decide +kernel
    have methods : (register.run [] (.replying [record])).turns.map (·.request.method) =
        [.post] := by decide +kernel
    obtain ⟨t, ht, post⟩ := List.mem_map.mp (methods ▸ List.mem_singleton_self _)
    obtain ⟨-, runs⟩ := (sends_what_is_given accepted).1 _ _ _ _ _ _ _ rfl
    obtain ⟨c, session, place, number, table, fields, -, -, numbered, -, body, -, are_fields⟩ :=
      runs [] _ t ht post
    -- No environment is named, so there is no number.
    obtain rfl : number = none := numbered
    refine ⟨accepted, t, ht, post, fields, body, (are_fields _ _).mpr ?_,
      (are_fields _ _).mpr ?_, fun number mem => ?_⟩
    · have keys : Text.cleanList [" a ", " ", "b"] = ["a", "b"] := by decide +kernel
      rw [keys]
      simp [someTexts, Json.ofList]
    · simp
    · simpa using (are_fields _ _).mp mem
  · have accepted : ofArguments updating = .ok update := by decide +kernel
    have methods : (update.run [] (.replying [record, record])).turns.map (·.request.method) =
        [.get, .put] := by decide +kernel
    obtain ⟨t, ht, put⟩ := List.mem_map.mp
      (methods ▸ List.mem_cons_of_mem _ (List.mem_singleton_self _))
    obtain ⟨-, runs⟩ := (sends_what_is_given accepted).2 _ _ _ _ _ _ _ _ rfl
    obtain ⟨c, session, place, number, fields, -, -, numbered, body, -, are_fields⟩ :=
      runs [] _ t ht put
    obtain rfl : number = none := numbered
    refine ⟨accepted, t, ht, put, fields, body, fun key value => ?_⟩
    rw [are_fields]
    simp

end Invocation

end HostConsole
