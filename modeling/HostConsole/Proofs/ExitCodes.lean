import HostConsole.Proofs.FailFast

/-!
# Exit codes

What a program can end in by itself is shown for the operations and the commands one by one: a
verdict, a failure of its data, or that of a file. None of these has the exit code of a wrong
command line, and nothing that arrives has it either. So a run with this exit code has not come to
the program of its command.

## Main definitions

* `ExitCode.IsVerdict`: the exit codes of commands that are through with their work
* `Ending.IsKept`: a run of which a request could not go out
* `ExitsBy`: the exit code of a run, by what arrived for its requests
* `Ending.IsIdle`: a run that did nothing

## Main results

* `ServerCommand.endsIn`: what the program of every command ends in
* `Invocation.exitsBy_run`: the exit code of a run tells what arrived
* `Invocation.run_of_usage`: a wrong command line has no effect
-/

namespace HostConsole

/-! ## The operations -/

open Program

namespace Resolution

variable (org : String) (reference : SystemReference)

theorem ends_environment (name : Option String) : (environment org name).Ends := by
  apply (ends_look_or rfl).bind
  intro found
  cases found with
  | nil => rfl
  | cons first others => trivial

theorem exitCode_of_exactlyOne {found : List Machine} {failure : Failure}
    (h : exactlyOne found reference org = .error failure) : failure.exitCode = .badData := by
  rcases found with _ | ⟨first, _ | ⟨second, others⟩⟩ <;> cases h <;> rfl

theorem ends_exactlyOne (found : List Machine) :
    (require (exactlyOne found reference org)).Ends :=
  ends_require fun _ => exitCode_of_exactlyOne org reference

theorem ends_system (inEnvironment : Option String) :
    (system org reference inEnvironment).Ends := by
  cases reference with
  | uuid uuid => exact ends_look_or rfl
  | name name =>
    have settled (found : List Machine) :
        (require (exactlyOne found (.name name) org) >>= fun only =>
          look (.system only.uuid) (some (.systemNotFound (.name name) org))).Ends :=
      (ends_exactlyOne org _ found).bind fun _ => ends_look_or rfl
    cases inEnvironment with
    | none => exact Ends.bind (ends_look_or rfl) settled
    | some place =>
      apply (ends_environment org (some place)).bind
      intro place
      exact Ends.bind (ends_look_or rfl) settled

theorem ends_listedSystem : (listedSystem org reference).Ends :=
  (ends_look_or rfl).bind fun _ => ends_exactlyOne org reference _

theorem ends_uuid : (uuid org reference).Ends := by
  cases reference with
  | uuid uuid => trivial
  | name name => exact (ends_system org (.name name) none).bind fun _ => trivial

end Resolution

namespace Systems

variable (org : String) (reference : SystemReference) (environment : Option String)

theorem ends_list (poolId : Option String) : (list org environment poolId).Ends := by
  cases environment with
  | none => exact ends_look _
  | some name => exact (Resolution.ends_environment org (some name)).bind fun _ => ends_look _

theorem ends_details : (details org reference environment).Ends := by
  apply (Resolution.ends_system org reference environment).bind
  intro machine
  exact (ends_look _).bind fun _ => trivial

theorem ends_tasks : (tasks org reference environment).Ends :=
  (Resolution.ends_environment org environment).bind fun _ => ends_look _

theorem ends_releases (source : ReleaseSource) : (releases org source).Ends := by
  rcases source with (name | uuid) | name
  · apply (Resolution.ends_system org (.name name) none).bind
    intro machine
    apply (ends_look _).bind
    intro found
    trivial
  · exact (ends_look_or rfl).bind fun _ => trivial
  · apply (Resolution.ends_environment org (some name)).bind
    intro place
    apply (ends_look _).bind
    intro found
    trivial

theorem ends_environmentId : (environmentId org environment).Ends := by
  cases environment with
  | none => trivial
  | some name => exact (Resolution.ends_environment org (some name)).bind fun _ => trivial

/-- A write that was rejected is a matter of the data. -/
theorem ends_confirmed (record : Option Machine) (action name : String) :
    (require (confirmed record action name)).Ends := by
  refine ends_require fun failure h => ?_
  unfold confirmed at h
  split at h
  · split at h <;> cases h
    rfl
  · cases h
    rfl

theorem ends_register (request : RegisterRequest) : (register request).Ends := by
  apply (ends_environmentId request.org request.environment).bind
  intro environmentId
  exact (ends_change _).bind fun record => ends_confirmed record _ _

theorem ends_unregister : (unregister org reference environment).Ends := by
  apply (Resolution.ends_system org reference environment).bind
  intro machine
  exact (ends_change _).bind fun _ => trivial

theorem ends_update (changes : Changes) : (update org reference environment changes).Ends := by
  apply (Resolution.ends_system org reference environment).bind
  intro machine
  apply (ends_environmentId org changes.environment).bind
  intro environmentId
  apply (ends_change _).bind
  intro record
  exact (ends_confirmed record _ _).bind fun _ => trivial

end Systems

namespace Membership

variable (org : String) (reference : SystemReference) (names : List String)

theorem ends_groupIds : (groupIds org names).Ends := by
  apply (ends_look _).bind
  intro groups
  refine ends_require fun failure h => ?_
  dsimp only [numbersOf] at h
  split at h <;> cases h
  rfl

theorem ends_join : (join org reference names).Ends := by
  apply (Resolution.ends_listedSystem org reference).bind
  intro machine
  apply (ends_groupIds org names).bind
  intro groups
  exact (ends_change _).bind fun record => Systems.ends_confirmed record _ _

theorem ends_leave : (leave org reference names).Ends := by
  apply (Resolution.ends_listedSystem org reference).bind
  intro machine
  apply (ends_groupIds org names).bind
  intro groups
  exact (ends_change _).bind fun record => Systems.ends_confirmed record _ _

end Membership

namespace CustomInfo

variable (machine : Machine) (key : String)

theorem ends_add (value : String) : (add machine key value).Ends :=
  (ends_change _).bind fun _ => trivial

theorem ends_update (current new : String) : (update machine key current new).Ends :=
  (ends_change _).bind fun _ => trivial

theorem ends_remove (value : Option String) : (remove machine key value).Ends :=
  ends_change _

end CustomInfo

namespace Report

theorem ends_fetch (org : String) (environment : Option String) (format : ReportFormat) :
    (fetch org environment format).Ends := by
  cases environment with
  | none => exact ends_look _
  | some name => exact (Resolution.ends_environment org (some name)).bind fun _ => ends_look _

theorem ends_store (directory : String) (report : Report) : (store directory report).Ends :=
  ⟨rfl, trivial⟩

end Report

/-! ## The commands -/

/-- The exit codes of commands that are through with their work. -/
def ExitCode.IsVerdict (code : ExitCode) : Prop :=
  code = .ok ∨ code = .badData

namespace Session

variable {s : Session} {system : Selector} {environment : Option String}
  {program : Program ExitCode}

/-- What comes of a change that may not have come about. -/
theorem endsIn_verdict {done : Prop} [Decidable done] {success failure : String} :
    (if done then succeed success else disappoint failure).EndsIn ExitCode.IsVerdict := by
  split
  · exact .inl rfl
  · exact .inr rfl

theorem endsIn_list {org poolId : Option String}
    (h : s.list org environment poolId = .ok program) : program.EndsIn ExitCode.IsVerdict := by
  obtain ⟨org, -, hn⟩ := exists_of_bind_eq_ok h
  cases hn
  exact (Systems.ends_list org environment poolId).bind fun _ => .inl rfl

theorem endsIn_info (h : s.info system environment = .ok program) :
    program.EndsIn ExitCode.IsVerdict := by
  obtain ⟨org, reference, -, hn⟩ := exists_target h
  cases hn
  exact (Systems.ends_details org reference environment).bind fun _ => .inl rfl

theorem endsIn_performAction (uuid : String) (action : PackageAction) :
    (s.performAction uuid action).EndsIn ExitCode.IsVerdict := by
  apply (ends_change _).bind
  intro task ended
  -- The task has ended, well or not.
  change (if ended.state.succeeded then _ else _ : Program ExitCode).EndsIn _
  split
  · exact .inl rfl
  · exact .inr rfl

theorem endsIn_packages {options : PackageOptions}
    (h : s.packages system environment options = .ok program) :
    program.EndsIn ExitCode.IsVerdict := by
  obtain ⟨org, reference, -, hn⟩ := exists_target h
  obtain ⟨action, -, hn⟩ := exists_of_bind_eq_ok hn
  have found := Resolution.ends_system org reference environment
  cases action with
  | none =>
    cases hn
    apply found.bind
    intro machine
    exact (ends_look _).bind fun _ => .inl rfl
  | some action =>
    cases hn
    exact found.bind fun machine => endsIn_performAction machine.uuid action

theorem endsIn_tasks (h : s.tasks system environment = .ok program) :
    program.EndsIn ExitCode.IsVerdict := by
  obtain ⟨org, reference, -, hn⟩ := exists_target h
  cases hn
  exact (Systems.ends_tasks org reference environment).bind fun _ => .inl rfl

theorem endsIn_taskInfo {id : String} (h : s.taskInfo id = .ok program) :
    program.EndsIn ExitCode.IsVerdict := by
  cases h
  exact (ends_look _).bind fun _ => .inl rfl

theorem endsIn_releases (h : s.releases system environment = .ok program) :
    program.EndsIn ExitCode.IsVerdict := by
  obtain ⟨org, -, hn⟩ := exists_of_bind_eq_ok h
  obtain ⟨source, -, hn⟩ := exists_of_bind_eq_ok hn
  cases hn
  exact (Systems.ends_releases org source).bind fun _ => .inl rfl

theorem endsIn_facts (h : s.facts system environment = .ok program) :
    program.EndsIn ExitCode.IsVerdict := by
  obtain ⟨org, reference, -, hn⟩ := exists_target h
  cases hn
  exact (Resolution.ends_system org reference environment).bind fun _ => .inl rfl

theorem endsIn_register {name : String} {org serviceLevel release : Option String}
    {activationKeys facts : List String}
    (h : s.register name org environment serviceLevel activationKeys release facts =
      .ok program) : program.EndsIn ExitCode.IsVerdict := by
  obtain ⟨org, -, hn⟩ := exists_of_bind_eq_ok h
  cases hn
  exact (Systems.ends_register _).bind fun _ => .inl rfl

theorem endsIn_unregister (h : s.unregister system environment = .ok program) :
    program.EndsIn ExitCode.IsVerdict := by
  obtain ⟨org, reference, -, hn⟩ := exists_target h
  cases hn
  exact (Systems.ends_unregister org reference environment).bind fun _ => .inl rfl

theorem endsIn_removeDeletion {uuid : String} (h : removeDeletion uuid = .ok program) :
    program.EndsIn ExitCode.IsVerdict := by
  cases h
  exact (ends_change _).bind fun _ => .inl rfl

theorem endsIn_subscribe {pool : String} {quantity : Nat}
    (h : s.subscribe system pool quantity = .ok program) :
    program.EndsIn ExitCode.IsVerdict := by
  obtain ⟨org, reference, -, hn⟩ := exists_target h
  cases hn
  apply (Resolution.ends_uuid org reference).bind
  intro uuid
  exact (ends_change _).bind fun _ => .inl rfl

theorem endsIn_subscriptions {available : Bool} {filter : PoolFilter}
    (h : s.subscriptions system available filter = .ok program) :
    program.EndsIn ExitCode.IsVerdict := by
  obtain ⟨org, reference, -, hn⟩ := exists_target h
  cases hn
  -- Whether there are some or none, they are shown.
  split <;>
  · apply (Resolution.ends_uuid org reference).bind
    intro uuid
    apply (ends_look _).bind
    intro found
    split
    · exact .inl rfl
    · exact .inl rfl

theorem endsIn_unsubscribe {entitlement serial : Option String} {all : Bool}
    (h : s.unsubscribe system entitlement serial all = .ok program) :
    program.EndsIn ExitCode.IsVerdict := by
  obtain ⟨what, -, ht⟩ := exists_of_bind_eq_ok h
  obtain ⟨org, reference, -, hn⟩ := exists_target ht
  cases hn
  apply (Resolution.ends_uuid org reference).bind
  intro uuid
  exact (ends_change _).bind fun _ => .inl rfl

theorem endsIn_update {changes : Systems.Changes}
    (h : s.update system environment changes = .ok program) :
    program.EndsIn ExitCode.IsVerdict := by
  obtain ⟨org, reference, -, hn⟩ := exists_target h
  cases hn
  exact (Systems.ends_update org reference environment changes).bind fun _ => .inl rfl

theorem endsIn_report {org : Option String} {format : String}
    (h : s.report org environment format = .ok program) :
    program.EndsIn ExitCode.IsVerdict := by
  obtain ⟨org, -, hn⟩ := exists_of_bind_eq_ok h
  obtain ⟨format, -, hn⟩ := exists_of_bind_eq_ok hn
  cases hn
  apply (Report.ends_fetch org environment format).bind
  intro report
  split
  · exact (Report.ends_store s.reportDirectory report).bind fun _ => .inl rfl
  · exact .inl rfl

theorem endsIn_systemGroups {groups : List String} {joins : Bool}
    (h : s.systemGroups system groups joins = .ok program) :
    program.EndsIn ExitCode.IsVerdict := by
  obtain ⟨org, reference, -, hn⟩ := exists_target h
  obtain ⟨names, -, hn⟩ := exists_of_bind_eq_ok hn
  cases hn
  split
  · exact (Membership.ends_join org reference names).bind fun _ => .inl rfl
  · exact (Membership.ends_leave org reference names).bind fun _ => .inl rfl

theorem endsIn_addCustomInfo {key value : String}
    (h : s.addCustomInfo system environment key value = .ok program) :
    program.EndsIn ExitCode.IsVerdict := by
  obtain ⟨org, reference, -, hn⟩ := exists_target h
  cases hn
  apply (Resolution.ends_system org reference environment).bind
  intro machine
  exact (CustomInfo.ends_add machine key value).bind fun _ => endsIn_verdict

theorem endsIn_viewCustomInfo {key : Option String}
    (h : s.viewCustomInfo system environment key = .ok program) :
    program.EndsIn ExitCode.IsVerdict := by
  obtain ⟨org, reference, -, hn⟩ := exists_target h
  cases hn
  apply (Resolution.ends_system org reference environment).bind
  intro machine
  exact (ends_look _).bind fun _ => .inl rfl

theorem endsIn_updateCustomInfo {key current new : String}
    (h : s.updateCustomInfo system environment key current new = .ok program) :
    program.EndsIn ExitCode.IsVerdict := by
  obtain ⟨org, reference, -, hn⟩ := exists_target h
  cases hn
  apply (Resolution.ends_system org reference environment).bind
  intro machine
  exact (CustomInfo.ends_update machine key current new).bind fun _ => endsIn_verdict

theorem endsIn_removeCustomInfo {key : String} {value : Option String}
    (h : s.removeCustomInfo system environment key value = .ok program) :
    program.EndsIn ExitCode.IsVerdict := by
  obtain ⟨org, reference, -, hn⟩ := exists_target h
  cases hn
  apply (Resolution.ends_system org reference environment).bind
  intro machine
  exact (CustomInfo.ends_remove machine key value).bind fun _ => endsIn_verdict

end Session

/-- **The program of every command** ends with its verdict, or with a failure of its data or of a
file, if not with the fault of a request. -/
theorem ServerCommand.endsIn {s : Session} {command : ServerCommand} {program : Program ExitCode}
    (h : command.prepare s = .ok program) : program.EndsIn ExitCode.IsVerdict := by
  cases command with
  | list => exact Session.endsIn_list h
  | info => exact Session.endsIn_info h
  | packages => exact Session.endsIn_packages h
  | tasks => exact Session.endsIn_tasks h
  | taskInfo => exact Session.endsIn_taskInfo h
  | releases => exact Session.endsIn_releases h
  | facts => exact Session.endsIn_facts h
  | register => exact Session.endsIn_register h
  | unregister => exact Session.endsIn_unregister h
  | removeDeletion => exact Session.endsIn_removeDeletion h
  | subscribe => exact Session.endsIn_subscribe h
  | subscriptions => exact Session.endsIn_subscriptions h
  | unsubscribe => exact Session.endsIn_unsubscribe h
  | update => exact Session.endsIn_update h
  | report => exact Session.endsIn_report h
  | addSystemGroups => exact Session.endsIn_systemGroups h
  | removeSystemGroups => exact Session.endsIn_systemGroups h
  | addCustomInfo => exact Session.endsIn_addCustomInfo h
  | viewCustomInfo => exact Session.endsIn_viewCustomInfo h
  | updateCustomInfo => exact Session.endsIn_updateCustomInfo h
  | removeCustomInfo => exact Session.endsIn_removeCustomInfo h

/-! ## Runs of commands -/

/-- The calls that go by the status alone. -/
def Call.IgnoresContent : Call → Prop
  | .change (.unregister _) | .change (.removeDeletionRecord _) | .change (.subscribe ..)
  | .change (.unsubscribe ..) => True
  | _ => False

theorem Turn.Fails.of_ignoresContent {t : Turn} (h : t.Fails) (hi : t.call.IgnoresContent)
    {r : Reply} (hr : t.delivery = .reply r) : isSuccess r.status = false := by
  obtain ⟨call, request, delivery⟩ := t
  rcases h with arrived | ⟨arrived, status⟩ | ⟨arrived, status, content⟩
  · cases arrived.symm.trans hr
  · cases arrived.symm.trans hr
    exact status
  · -- Such a call reads no content, so it rejects none.
    change call.IgnoresContent at hi
    change call.read _ = _ at content
    unfold Call.IgnoresContent at hi
    split at hi
    · cases content
    · cases content
    · cases content
    · cases content
    · exact hi.elim

/-- A request of the run could not go out, so that its connection was broken from the start. -/
def Ending.IsKept (c : Connection) (isListening : Bool) (e : Ending ExitCode) : Prop :=
  ∃ call fault, c.obstacle? isListening (Call.request call) = some fault ∧
    e.result = .error (.remote fault)

/-- The exit code of a run, by what arrived for its requests. -/
structure ExitsBy (c : Connection) (isListening : Bool) (e : Ending ExitCode) : Prop where
  /-- No turn fails but the last one, and its arrival alone says what the exit code is. -/
  failing : ∀ t ∈ e.turns, t.Fails → ∃ before, e.turns = before ++ [t] ∧
    (∀ u ∈ before, ¬ u.Fails) ∧ e.exitCode.number = t.delivery.failureNumber
  /-- A request that could not go out has the exit code of a broken connection. -/
  kept : e.IsKept c isListening → e.exitCode.number = Delivery.nothing.failureNumber
  /-- Calls that go by the status alone reject no content. -/
  ignoring : ∀ t ∈ e.turns, t.Fails → t.call.IgnoresContent →
    ∀ r, t.delivery = .reply r → isSuccess r.status = false
  /-- If nothing failed, there is one of four exit codes. -/
  answered : (∀ t ∈ e.turns, ¬ t.Fails) → ¬ e.IsKept c isListening →
    e.exitCode.number ∈ [0, 65, 73, 75]

theorem Ending.exitCode_of_error {e : Ending ExitCode} {failure : Failure}
    (h : e.result = .error failure) : e.exitCode = failure.exitCode := by
  rw [exitCode, h]

theorem Ending.IsKept.exitCode_eq {c : Connection} {isListening : Bool} {e : Ending ExitCode}
    (h : e.IsKept c isListening) : e.exitCode = .unavailable := by
  obtain ⟨call, fault, obstacle, result⟩ := h
  rw [exitCode_of_error result]
  exact Connection.exitCode_of_obstacle? obstacle

theorem FailsFast.exitsBy {c : Connection} {isListening : Bool} {e : Ending ExitCode}
    (h : FailsFast c isListening ExitCode.IsVerdict e.turns e.result) :
    ExitsBy c isListening e where
  failing t mem fails := by
    have lost : ¬ ∀ u ∈ e.turns, u.Succeeds := fun hs => Turn.fails_iff.mp fails (hs t mem)
    generalize ht : e.turns = turns at h mem lost ⊢
    generalize hr : e.result = result at h
    cases h with
    | answered succeeded verdict => exact absurd succeeded lost
    | gaveUp succeeded code => exact absurd succeeded lost
    | kept succeeded obstacle => exact absurd succeeded lost
    | @failed before last failure succeeded unanswered code =>
      -- The turns before succeeded, so that the one that failed is the last.
      obtain rfl : t = last := by
        rcases List.mem_append.mp mem with early | late
        · exact absurd (succeeded t early) (Turn.fails_iff.mp fails)
        · exact List.mem_singleton.mp late
      refine ⟨before, rfl, fun u hu failed => Turn.fails_iff.mp failed (succeeded u hu), ?_⟩
      rw [Ending.exitCode_of_error hr, code]
  kept h := congrArg ExitCode.number h.exitCode_eq
  ignoring _ _ fails hi _ hr := fails.of_ignoresContent hi hr
  answered none free := by
    generalize e.turns = turns at h none
    generalize hr : e.result = result at h
    cases h with
    | answered succeeded verdict =>
      have code : e.exitCode.IsVerdict := by
        rw [Ending.exitCode, hr]
        exact verdict
      rcases code with code | code <;> rw [code] <;> decide
    | gaveUp succeeded code =>
      rw [← Ending.exitCode_of_error hr] at code
      rcases (by simpa using code) with code | code | code <;> rw [code] <;> decide
    | kept succeeded obstacle => exact absurd ⟨_, _, obstacle, hr⟩ free
    | @failed before last failure succeeded unanswered code =>
      exact absurd (Turn.fails_iff.mpr unanswered) (none last (by simp))

namespace Invocation

variable {i : Invocation} {vars : Variables} {s : Surroundings}

/-- A command whose options are in order runs its program. -/
theorem run_of_prepare {command : ServerCommand} {c : Connection} {session : Session}
    {program : Program ExitCode} (hc : i.command = .server command)
    (ho : i.open? vars s.files = .ok (c, session)) (hp : command.prepare session = .ok program) :
    i.run vars s = program.run c s := by
  simp only [run, serve, hc, ho, Command.prepare, hp]

/-- **The exit code of a run tells what arrived**, whatever the command and however far the run
had come. -/
theorem exitsBy_run {command : ServerCommand} {c : Connection} {session : Session}
    {program : Program ExitCode} (hc : i.command = .server command)
    (ho : i.open? vars s.files = .ok (c, session)) (hp : command.prepare session = .ok program) :
    (i.run vars s).turns.map Turn.delivery =
        arrivals s.network.deliveries (i.run vars s).turns.length ∧
      ExitsBy c s.network.isListening (i.run vars s) := by
  rw [run_of_prepare hc ho hp]
  exact ⟨(program.map_delivery_turns_run s).1, ((ServerCommand.endsIn hp).failsFast_run s).exitsBy⟩

/-- A change that is forbidden ends a run with its exit code, though the lookup before it was
answered. -/
theorem exitsBy_run_of_forbidden :
    let found : Delivery :=
      .reply { status := 200, body := Utf8.bytes "\x7b\"uuid\":\"u\"\x7d" }
    let s : Surroundings :=
      { network := { isListening := true, deliveries := [found, .reply { status := 403 }] }
        files := Files.ofEntries [] [] }
    ((unregistering none (some "u")).run [] s).turns.length = 2 ∧
      ((unregistering none (some "u")).run [] s).exitCode.number = 77 := by
  intro found s
  have two : ((unregistering none (some "u")).run [] s).turns.length = 2 := by decide +kernel
  have opens : ((unregistering none (some "u")).open? [] s.files).toBool = true := by
    decide +kernel
  cases ho : (unregistering none (some "u")).open? [] s.files with
  | error failure =>
    rw [ho] at opens
    cases opens
  | ok opened =>
    obtain ⟨c, session⟩ := opened
    obtain ⟨arrived, exits⟩ := exitsBy_run (i := unregistering none (some "u")) (s := s) rfl ho rfl
    rw [two] at arrived
    obtain ⟨first, more, ht, -, hm⟩ := List.map_eq_cons_iff.mp arrived
    obtain ⟨t, rest, rfl, hd, -⟩ := List.map_eq_cons_iff.mp hm
    obtain ⟨-, -, -, code⟩ := exits.failing t (ht ▸ by simp) (.refused hd rfl)
    exact ⟨two, code.trans (congrArg Delivery.failureNumber hd)⟩

end Invocation

/-! ## Wrong command lines -/

/-- The run did nothing but end with a failure. -/
def Ending.IsIdle (s : Surroundings) (e : Ending ExitCode) : Prop :=
  ∃ failure, e = .ofResult s (.error failure)

/-- Nothing that arrives has the exit code of a wrong command line. -/
theorem Delivery.failureNumber_ne_usage (d : Delivery) :
    d.failureNumber ≠ ExitCode.usage.number := by
  unfold failureNumber
  split
  · decide
  · split_ifs <;> decide

/-- No program ends with the exit code of a wrong command line. -/
theorem ExitsBy.exitCode_ne_usage {c : Connection} {isListening : Bool} {e : Ending ExitCode}
    (h : ExitsBy c isListening e) : e.exitCode ≠ .usage := by
  intro usage
  by_cases kept : e.IsKept c isListening
  · cases usage.symm.trans kept.exitCode_eq
  · by_cases none : ∀ t ∈ e.turns, ¬ t.Fails
    · have code := h.answered none kept
      rw [usage] at code
      exact absurd code (by decide)
    · push Not at none
      obtain ⟨t, ht, fails⟩ := none
      obtain ⟨-, -, -, code⟩ := h.failing t ht fails
      rw [usage] at code
      exact t.delivery.failureNumber_ne_usage code.symm

namespace ConfigCommand

variable (globals : Globals) (vars : Variables) (s : Surroundings)

/-- Where a file cannot be begun for the command line, no directory is made for it either. -/
theorem isIdle_beginFile {force : Bool} : (beginFile globals vars force s).exitCode = .usage →
    (beginFile globals vars force s).IsIdle s := by
  unfold beginFile
  split
  · exact fun _ => ⟨_, rfl⟩
  · split
    · -- the file is there
      exact fun _ => ⟨_, rfl⟩
    · split
      · exact fun _ => ⟨_, rfl⟩
      · -- The directory is made, but what can fail now is no matter of the command line.
        split <;> exact nofun

theorem isIdle_run {command : ConfigCommand} :
    (command.run globals vars s).exitCode = .usage → (command.run globals vars s).IsIdle s := by
  cases command with
  | display =>
    change (showSettings globals vars s).exitCode = _ → (showSettings globals vars s).IsIdle s
    unfold showSettings
    split
    · exact nofun
    · exact fun _ => ⟨_, rfl⟩
  | locate => exact nofun
  | init force => exact isIdle_beginFile globals vars s

end ConfigCommand

namespace Invocation

variable {i : Invocation} {vars : Variables} {s : Surroundings}

/-- Settings and options are looked at before the program of a command, and the program never ends
with the exit code of a wrong command line. -/
theorem isIdle_serve {command : ServerCommand} (hc : i.command = .server command)
    (h : (i.serve vars s).exitCode = .usage) : (i.serve vars s).IsIdle s := by
  unfold serve at h ⊢
  cases ho : i.open? vars s.files with
  | error failure => exact ⟨failure, rfl⟩
  | ok opened =>
    obtain ⟨c, session⟩ := opened
    simp only [ho, hc] at h ⊢
    cases hp : (Command.server command).prepare session with
    | error failure => exact ⟨failure, rfl⟩
    | ok program =>
      simp only [hp] at h
      exact absurd h ((ServerCommand.endsIn hp).failsFast_run s).exitsBy.exitCode_ne_usage

/-- **A wrong command line has no effect**: a run with its exit code asked for nothing, left
everything as it was, and put out nothing. -/
theorem run_of_usage (h : (i.run vars s).exitCode.number = 64) :
    (i.run vars s).turns = [] ∧ (i.run vars s).surroundings = s ∧
      ∀ colors, (i.run vars s).output colors = "" := by
  have usage : (i.run vars s).exitCode = .usage := by
    generalize (i.run vars s).exitCode = code at h
    cases code with
    | usage => rfl
    | _ => cases h
  have idle : (i.run vars s).IsIdle s := by
    unfold run at usage ⊢
    split at usage
    · next command hc => exact isIdle_serve hc usage
    · next command _ => exact command.isIdle_run i.globals vars s usage
    · cases usage
  obtain ⟨failure, he⟩ := idle
  rw [he]
  exact ⟨rfl, rfl, fun _ => rfl⟩

/-- A command that names no system is wrong. -/
theorem run_of_usage_of_no_system :
    ((unregistering none none).run [] (.replying [])).exitCode.number = 64 ∧
      ((unregistering none none).run [] (.replying [])).requests = [] := by
  have wrong : ((unregistering none none).run [] (.replying [])).exitCode.number = 64 := by
    decide +kernel
  refine ⟨wrong, ?_⟩
  rw [Ending.requests, (run_of_usage wrong).1]
  rfl

end Invocation

end HostConsole
