import HostConsole.Proofs.ExitCodes
import HostConsole.Proofs.PackageChoice

/-!
# Remote actions

A package action is one request, and then looks at the task that the reply to it tells of. What a
user sees of it is told behind these: a line once the task is started, and a heading with the words
of the server once it has ended.

The looks are a wait, so that their number and the last of them are known from its closed form.
Nothing else in the run tells anything: neither finding the system nor waiting does, and that is a
matter of their programs (`Program.IsSilent`).

## Main definitions

* `Ending.messages`: what a user is told in a run
* `PackageOptions.values`: the names that are given with the options
* `Program.IsSilent`: a program that tells nothing
* `Performs`: the turns, the messages and the exit code of a package action

## Main results

* `IsWait.exists_looks`: how a wait ends with its last look
* `Session.performs_performAction`: every package action comes to one of its ends
* `Invocation.performs_run`: the run of a command with an action
-/

namespace HostConsole

/-! ## Messages -/

/-- The message that an event stands for. -/
def Event.message? : Event → Option Output.Message
  | told message => some message
  | _ => none

/-- What a user is told among some events, in its order. -/
def messagesOf (events : List Event) : List Output.Message :=
  events.filterMap Event.message?

@[simp] theorem messagesOf_append (events more : List Event) :
    messagesOf (events ++ more) = messagesOf events ++ messagesOf more :=
  List.filterMap_append

namespace Ending

variable {α : Type}

/-- What a user is told in a run. -/
def messages (e : Ending α) : List Output.Message :=
  messagesOf e.events

@[simp] theorem messages_after (events : List Event) (e : Ending α) :
    (e.after events).messages = messagesOf events ++ e.messages :=
  messagesOf_append events e.events

/-- The standard output holds the messages and nothing else. -/
theorem output_eq (e : Ending α) (colors : Bool) :
    e.output colors = String.join (e.messages.map (Output.Message.render colors)) := by
  unfold output messages
  generalize e.events = events
  induction events with
  | nil => rfl
  | cons event events ih =>
    rw [List.map_cons, String.join_cons, ih]
    cases event with
    | told message =>
      change _ = String.join (_ :: _)
      rw [String.join_cons]
      rfl
    | sent | warned | saw | slept => exact String.empty_append

end Ending

/-! ## Programs that tell nothing -/

namespace Program

variable {α β : Type} {c : Connection}

/-- Whatever it is answered, the program tells nothing. -/
def IsSilent : Program α → Prop
  | .done _ | .fail _ => True
  | .tell _ _ => False
  | .ask _ _ next => ∀ answer, (next answer).IsSilent
  | .await _ _ next => ∀ ended, (next ended).IsSilent
  | .save _ _ _ next => next.IsSilent

theorem IsSilent.bind {p : Program α} {f : α → Program β} (h : p.IsSilent)
    (hf : ∀ result, (f result).IsSilent) : (p >>= f).IsSilent := by
  change (p.bind f).IsSilent
  induction p with
  | done result => exact hf result
  | fail failure => trivial
  | tell message next ih => exact h.elim
  | ask call missing next ih => exact fun answer => ih answer (h answer)
  | await task polling next ih => exact fun ended => ih ended (h ended)
  | save path bytes unwritable next ih => exact ih h

theorem isSilent_look (l : Lookup) (missing : Option Failure) : (look l missing).IsSilent :=
  fun _ => trivial

end Program

/-- A watch tells nothing. -/
theorem Connection.messagesOf_watch (c : Connection) (task : String) (polling : Polling)
    (started : Nat) (ds : List Delivery) (clock : Nat) :
    messagesOf (c.watch task polling started ds clock).events = [] := by
  have look (d : Delivery) : messagesOf (c.look task d) = [] := by
    unfold Connection.look
    cases d.snapshot? task <;> rfl
  induction ds generalizing clock with
  | nil => rfl
  | cons d ds ih =>
    cases settles : d.settles task with
    | true =>
      rw [watch_of_settles settles]
      exact look d
    | false =>
      rw [watch_of_not_settles settles]
      split
      · exact look d
      · rw [Watch.after, messagesOf_append, messagesOf_append, look, ih]
        rfl

theorem Program.messages_waitFor (c : Connection) (task : String) (polling : Polling)
    (s : Surroundings) : ((waitFor task polling).run c s).messages = [] := by
  cases ho : c.obstacle? s.network.isListening (Lookup.task task).request with
  | some fault =>
    rw [run_waitFor_of_obstacle ho]
    rfl
  | none =>
    rw [run_waitFor_of_no_obstacle ho]
    exact c.messagesOf_watch _ _ _ _ _

/-- A program that tells nothing has told nothing when it has run. -/
theorem Program.IsSilent.messages_run {α : Type} {c : Connection} {p : Program α}
    (h : p.IsSilent) (s : Surroundings) : (p.run c s).messages = [] := by
  induction p generalizing s with
  | done result => rfl
  | fail failure => rfl
  | tell message next ih => exact h.elim
  | ask call missing next ih =>
    rcases run_ask_cases (c := c) call missing next s with
      ⟨fault, -, he⟩ | ⟨d, s', -, ⟨fault, -, he⟩ | ⟨answer, -, he⟩⟩
    · rw [he]
      rfl
    · rw [he]
      rfl
    · rw [he]
      exact ih answer (h answer) s'
  | await task polling next ih =>
    have waited := messages_waitFor c task polling s
    rw [show await task polling next = waitFor task polling >>= next from rfl, run_bind]
    cases hw : ((waitFor task polling).run c s).result with
    | error failure =>
      rw [Ending.andThen_of_error hw]
      exact waited
    | ok ended =>
      change messagesOf _ = [] at waited
      rw [Ending.andThen_of_ok hw, Ending.messages_after, waited, List.nil_append]
      exact ih ended (h ended) _
  | save path bytes unwritable next ih =>
    simp only [run]
    cases s.files.write path bytes with
    | ok files => exact ih h _
    | error fault => rfl

/-! ## Finding the system -/

open Program

namespace Resolution

theorem isSilent_environment (org : String) (name : Option String) :
    (environment org name).IsSilent := by
  apply (isSilent_look _ _).bind
  intro found
  cases found <;> trivial

theorem isSilent_system (org : String) (reference : SystemReference)
    (inEnvironment : Option String) : (system org reference inEnvironment).IsSilent := by
  cases reference with
  | uuid uuid => exact isSilent_look _ _
  | name name =>
    have settled (found : List Machine) :
        (require (exactlyOne found (.name name) org) >>= fun only =>
          look (.system only.uuid) (some (.systemNotFound (.name name) org))).IsSilent := by
      cases exactlyOne found (.name name) org with
      | ok only => exact isSilent_look _ _
      | error failure => trivial
    cases inEnvironment with
    | none => exact (isSilent_look _ _).bind settled
    | some place =>
      apply (isSilent_environment org (some place)).bind
      intro place
      exact (isSilent_look _ _).bind settled

end Resolution

/-! ## The options of an action -/

/-- The names that are given with the options, as they are given. -/
def PackageOptions.values (o : PackageOptions) : List String :=
  [o.install, o.remove, o.update, o.installGroups, o.removeGroups].flatMap (·.getD [])

/-- Where one kind of action is asked for, only its option gives names. -/
theorem PackageOptions.values_of_asksOnly {o : PackageOptions} {kind : PackageKind}
    (only : o.AsksOnly kind) : o.values = (o.values? kind).getD [] := by
  have absent (other : PackageKind) (different : other ≠ kind) : o.values? other = none :=
    PackageAction.values?_of_asksOnly only different
  have all_kinds : o.values = PackageKind.all.flatMap fun other => (o.values? other).getD [] := rfl
  rw [all_kinds]
  cases kind <;> simp [PackageKind.all, absent]

namespace PackageAction

/-- An action is about all names that are given with its option, but for the blank ones. -/
theorem names_of_ofOptions {options : PackageOptions} {action : PackageAction}
    (h : ofOptions options = .ok (some action)) :
    action.names = Text.cleanList options.values := by
  cases selects_of_ofOptions h with
  | all asked only blank =>
    rw [PackageOptions.values_of_asksOnly only]
    exact (Text.cleanList_eq_nil_iff.mpr blank).symm
  | named given others only some_names =>
    rw [PackageOptions.values_of_asksOnly only, PackageKind.names_action]
    rfl

end PackageAction

/-! ## Waiting for the task -/

/-- A timeout allows a look. -/
theorem Polling.one_le_mostLooks (polling : Polling) : 1 ≤ polling.mostLooks := by
  unfold mostLooks
  cases polling.timeout with
  | none => exact le_top
  | some timeout => exact Nat.one_le_cast.mpr (Nat.le_add_left 1 _)

/-- A look that settles a wait tells that the task has ended, or gets no answer. -/
theorem Connection.snapshot_of_settles {c : Connection} {task : String} {d : Delivery}
    (h : d.settles task = true) :
    (∃ ended, d.snapshot? task = some ended ∧ ended.state.isTerminal = true ∧
      c.snapshot task d = .ok ended) ∨
    ∃ fault, d.snapshot? task = none ∧ fault.exitCode.number = d.failureNumber ∧
      c.snapshot task d = .error fault := by
  unfold Delivery.settles at h
  cases hd : d.snapshot? task with
  | some ended =>
    rw [hd] at h
    exact .inl ⟨ended, rfl, h, snapshot_eq_ok_iff.mpr hd⟩
  | none =>
    obtain ⟨fault, hs⟩ := exists_snapshot_eq_error (c := c) hd
    exact .inr ⟨fault, rfl, exitCode_of_receive hs, hs⟩

/-- A wait whose looks can go out looks at least once. All looks but the last one see the task at
work, and the last one tells that it has ended, or gets no answer, or comes when the timeout is
over. -/
theorem IsWait.exists_looks {c : Connection} {task : String} {polling : Polling}
    {s : Surroundings} {n : ℕ} {e : Ending Task} (wait : IsWait c task polling s n e) :
    ∃ looks last, e.turns = (looks ++ [last]).map (c.turn (.lookup (.task task))) ∧
      (∀ d ∈ looks, d.settles task = false) ∧
      ((∃ ended, last.snapshot? task = some ended ∧ ended.state.isTerminal = true ∧
          e.result = .ok ended) ∨
        (∃ fault, last.snapshot? task = none ∧ fault.exitCode.number = last.failureNumber ∧
          e.result = .error (.remote fault)) ∨
        ∃ timeout waited, polling.timeout = some timeout ∧ last.settles task = false ∧
          waited = looks.length * polling.interval ∧ timeout ≤ waited ∧
          e.result = .error (.taskTimeout task waited)) := by
  obtain ⟨looks_eq, turns_eq, -, -, settled, overdue⟩ := wait
  generalize s.network.deliveries = ds at *
  have first : (1 : ℕ∞) ≤ n := by
    rw [looks_eq]
    exact le_min (Nat.one_le_cast.mpr (Nat.le_add_left 1 _)) polling.one_le_mostLooks
  obtain ⟨m, rfl⟩ : ∃ m, n = m + 1 :=
    ⟨n - 1, (Nat.sub_add_cancel (Nat.one_le_cast.mp first)).symm⟩
  have enough : m + 1 ≤ settlingLook task ds := by
    exact_mod_cast looks_eq.trans_le (min_le_left _ _)
  have used : m ≤ ds.length := by
    have := settlingLook_le_length task ds
    omega
  refine ⟨ds.take m, ds.getD m .nothing, by rw [turns_eq, arrivals_succ used], ?_, ?_⟩
  · exact fun d hd => settles_of_mem_take enough hd
  · rcases le_or_gt (settlingLook task ds : ℕ∞) polling.mostLooks with early | late
    · -- The last look settles the wait.
      rw [min_eq_left early] at looks_eq
      have last : settlingLook task ds = m + 1 := by exact_mod_cast looks_eq.symm
      have settles := settles_getD_settlingLook task ds
      have result := settled early
      rw [last, Nat.add_sub_cancel] at settles result
      rcases Connection.snapshot_of_settles (c := c) settles with
        ⟨ended, told, terminal, hs⟩ | ⟨fault, untold, code, hs⟩
      · exact .inl ⟨ended, told, terminal, result.trans (by rw [hs]; rfl)⟩
      · exact .inr (.inl ⟨fault, untold, code, result.trans (by rw [hs]; rfl)⟩)
    · -- The timeout is over at the last look.
      rw [min_eq_right late.le] at looks_eq
      have more : m + 1 < settlingLook task ds := by
        rw [← looks_eq] at late
        exact_mod_cast late
      obtain ⟨timeout, limited⟩ : ∃ timeout, polling.timeout = some timeout := by
        cases ht : polling.timeout with
        | some timeout => exact ⟨timeout, rfl⟩
        | none => simp [Polling.mostLooks, ht] at late
      obtain ⟨waited, result, hw, bounds⟩ := overdue late
      have left : m + 1 ≤ ds.length := by
        have := settlingLook_le_length task ds
        omega
      refine .inr (.inr ⟨timeout, waited, limited, ?_, ?_, (bounds timeout limited).1, result⟩)
      · apply settles_of_mem_take more
        rw [← arrivals_eq_take left, arrivals_succ used]
        simp
      · rw [hw, List.length_take, min_eq_left used, Nat.add_sub_cancel]

/-! ## Performing an action -/

/-- The line that tells of a task that was started. -/
def Task.opening (task : Task) : Output.Message :=
  .line ("Performing remote action [ " ++ task.uuid ++ " ]... ")

/-- The heading for a task that has ended. -/
def Task.heading (ended : Task) : Output.Message :=
  if ended.state.succeeded then .success "Remote action finished:"
  else .failure "Remote action failed:"

/-- The turns, the messages and the exit code of a package action for the system with a uuid. -/
inductive Performs (c : Connection) (isListening : Bool) (polling : Polling) (uuid : String)
    (action : PackageAction) : List Turn → List Output.Message → Nat → Prop where
  /-- The request for the action cannot go out. -/
  | kept {fault : RemoteFault}
      (obstacle : c.obstacle? isListening (Change.packageAction uuid action).request = some fault) :
      Performs c isListening polling uuid action [] [] 69
  /-- The request for the action is not answered. -/
  | refused {d : Delivery} (unanswered : d.answer? (.change (.packageAction uuid action)) = none) :
      Performs c isListening polling uuid action [c.turn (.change (.packageAction uuid action)) d]
        [] d.failureNumber
  /-- A task is started, but no look at it can go out. -/
  | unseen {d : Delivery} {task : Task} {fault : RemoteFault}
      (started : d.answer? (.change (.packageAction uuid action)) = some task)
      (obstacle : c.obstacle? isListening (Lookup.task task.uuid).request = some fault) :
      Performs c isListening polling uuid action [c.turn (.change (.packageAction uuid action)) d]
        [task.opening] 69
  /-- A task is started, and the last look tells that it has ended. -/
  | ended {d last : Delivery} {task ended : Task} {looks : List Delivery}
      (started : d.answer? (.change (.packageAction uuid action)) = some task)
      (working : ∀ look ∈ looks, look.settles task.uuid = false)
      (told : last.snapshot? task.uuid = some ended) (terminal : ended.state.isTerminal = true) :
      Performs c isListening polling uuid action
        (c.turn (.change (.packageAction uuid action)) d ::
          (looks ++ [last]).map (c.turn (.lookup (.task task.uuid))))
        [task.opening, ended.heading, .line ended.resultDescription]
        (if ended.state.succeeded then 0 else 65)
  /-- A task is started, and the last look is not answered. -/
  | lost {d last : Delivery} {task : Task} {looks : List Delivery}
      (started : d.answer? (.change (.packageAction uuid action)) = some task)
      (working : ∀ look ∈ looks, look.settles task.uuid = false)
      (untold : last.snapshot? task.uuid = none) :
      Performs c isListening polling uuid action
        (c.turn (.change (.packageAction uuid action)) d ::
          (looks ++ [last]).map (c.turn (.lookup (.task task.uuid))))
        [task.opening] last.failureNumber
  /-- A task is started, and the timeout is over before it has ended. -/
  | overdue {d last : Delivery} {task : Task} {looks : List Delivery} {timeout : ℕ}
      (started : d.answer? (.change (.packageAction uuid action)) = some task)
      (working : ∀ look ∈ looks ++ [last], look.settles task.uuid = false)
      (limited : polling.timeout = some timeout)
      (elapsed : timeout ≤ looks.length * polling.interval) :
      Performs c isListening polling uuid action
        (c.turn (.change (.packageAction uuid action)) d ::
          (looks ++ [last]).map (c.turn (.lookup (.task task.uuid))))
        [task.opening] 75

namespace Session

/-- What a command does once the task of its action has ended. -/
def conclude (ended : Task) : Program ExitCode := do
  if ended.state.succeeded then
    say (.success "Remote action finished:")
    showLine ended.resultDescription
  else
    say (.failure "Remote action failed:")
    say (.line ended.resultDescription)
    return .badData

variable {c : Connection}

theorem run_conclude (ended : Task) (s : Surroundings) :
    (conclude ended).run c s =
      { result := .ok (if ended.state.succeeded then .ok else .badData)
        events := [.told ended.heading, .told (.line ended.resultDescription)]
        surroundings := s } := by
  unfold conclude Task.heading
  split <;> rfl

/-- Behind the request, a task that was started is told of and waited for. -/
theorem performAction_eq (session : Session) (uuid : String) (action : PackageAction) :
    session.performAction uuid action =
      ask (.change (.packageAction uuid action)) none fun (task : Task) =>
        tell task.opening (waitFor task.uuid session.polling >>= conclude) := rfl

/-- What comes behind the reply that tells of a task. -/
theorem performs_follow (session : Session) (h : 0 < session.polling.interval) {uuid : String}
    {action : PackageAction} {d : Delivery} {task : Task} (s : Surroundings)
    (started : d.answer? (.change (.packageAction uuid action)) = some task) :
    Performs c s.network.isListening session.polling uuid action
      (c.turn (.change (.packageAction uuid action)) d ::
        ((waitFor task.uuid session.polling >>= conclude).run c s).turns)
      (task.opening :: ((waitFor task.uuid session.polling >>= conclude).run c s).messages)
      ((waitFor task.uuid session.polling >>= conclude).run c s).exitCode.number := by
  have silent := messages_waitFor c task.uuid session.polling s
  rw [run_bind]
  cases ho : c.obstacle? s.network.isListening (Lookup.task task.uuid).request with
  | some fault =>
    rw [run_waitFor_of_obstacle ho]
    have code := congrArg ExitCode.number (Connection.exitCode_of_obstacle? ho)
    exact code ▸ Performs.unseen started ho
  | none =>
    obtain ⟨n, wait⟩ := exists_isWait h ho
    obtain ⟨looks, last, turns, working, how⟩ := wait.exists_looks
    generalize (waitFor task.uuid session.polling).run c s = waited at *
    rcases how with ⟨ended, told, terminal, result⟩ | ⟨fault, untold, code, result⟩ |
      ⟨timeout, time, limited, sees, rfl, late, result⟩
    · -- The task has ended, and only now there is more to tell.
      rw [Ending.andThen_of_ok result, run_conclude, Ending.turns_after, Ending.messages_after]
      change messagesOf waited.events = [] at silent
      change turnsOf waited.events = _ at turns
      rw [silent, turns]
      change Performs _ _ _ _ _ (_ :: (_ ++ [])) _ (ExitCode.number (if _ then _ else _))
      rw [List.append_nil, apply_ite ExitCode.number]
      exact .ended started working told terminal
    · -- The last look got no answer.
      rw [Ending.andThen_of_error result]
      change Performs _ _ _ _ _ (_ :: waited.turns) (_ :: waited.messages) fault.exitCode.number
      rw [turns, silent, code]
      exact .lost started working untold
    · -- The task is still at work, and the time is up.
      rw [Ending.andThen_of_error result]
      change Performs _ _ _ _ _ (_ :: waited.turns) (_ :: waited.messages) 75
      rw [turns, silent]
      have all_working : ∀ look ∈ looks ++ [last], look.settles task.uuid = false :=
        List.forall_mem_append.mpr ⟨working, List.forall_mem_singleton.mpr sees⟩
      exact .overdue started all_working limited late

/-- **Every package action comes to one of its ends.** -/
theorem performs_performAction (session : Session) (h : 0 < session.polling.interval)
    (uuid : String) (action : PackageAction) (s : Surroundings) :
    Performs c s.network.isListening session.polling uuid action
      ((session.performAction uuid action).run c s).turns
      ((session.performAction uuid action).run c s).messages
      ((session.performAction uuid action).run c s).exitCode.number := by
  rw [performAction_eq]
  rcases run_ask_cases (c := c) (.change (.packageAction uuid action)) none
      (fun task : Task => tell task.opening (waitFor task.uuid session.polling >>= conclude)) s with
    ⟨fault, ho, he⟩ | ⟨d, s', hl, ⟨fault, hr, he⟩ | ⟨task, hr, he⟩⟩
  · -- The request cannot go out.
    rw [he]
    have code := congrArg ExitCode.number (Connection.exitCode_of_obstacle? ho)
    exact code ▸ Performs.kept ho
  · -- It is not answered.
    rw [he]
    have unanswered := Connection.answer?_of_receive_error hr
    exact Connection.exitCode_of_receive hr ▸ Performs.refused unanswered
  · -- It starts a task.
    have started := Connection.receive_eq_ok_iff.mp hr
    rw [he]
    exact hl ▸ performs_follow session h s' started

end Session

/-! ## The run of a command -/

/-- A task has ended well if its state has one of two names. -/
theorem TaskState.succeeded_ofName (name : String) :
    (ofName name).succeeded = true ↔ name = "finished" ∨ name = "succeeded" := by
  unfold ofName
  split_ifs with waiting <;> simp_all [succeeded]
  rcases waiting with rfl | rfl <;> simp

namespace Invocation

variable {i : Invocation} {vars : Variables} {s : Surroundings} {c : Connection}
  {session : Session}

/-- Every session looks at its tasks in the usual interval. -/
theorem interval_of_open? {files : Files} (h : i.open? vars files = .ok (c, session)) :
    session.polling.interval = Polling.usualInterval := by
  obtain ⟨settings, -, h⟩ := exists_of_bind_eq_ok h
  obtain ⟨connection, -, h⟩ := exists_of_bind_eq_ok h
  cases h
  rfl

/-- The program of a command with an action finds the system and performs the action for it. -/
theorem prepare_packages {system : Selector} {environment : Option String}
    {options : PackageOptions} {org : String} {reference : SystemReference} {action : PackageAction}
    (ht : session.target system = .ok (org, reference))
    (ha : PackageAction.ofOptions options = .ok (some action)) :
    (ServerCommand.packages system environment options).prepare session =
      .ok (Resolution.system org reference environment >>= fun machine =>
        session.performAction machine.uuid action) := by
  simp only [ServerCommand.prepare, Session.packages, ht, ha]
  rfl

/-- **A command with an action performs it** for the system that was found, with all names that
are not blank, whatever is replied. The lookups that find the system tell nothing. -/
theorem performs_run {system : Selector} {environment : Option String} {options : PackageOptions}
    {org : String} {reference : SystemReference} {action : PackageAction} {machine : Machine}
    (hc : i.command = .server (.packages system environment options))
    (ho : i.open? vars s.files = .ok (c, session))
    (ht : session.target system = .ok (org, reference))
    (ha : PackageAction.ofOptions options = .ok (some action))
    (hm : ((Resolution.system org reference environment).run c s).result = .ok machine) :
    (Change.packageAction machine.uuid action).request =
        { method := Change.actionMethod action
          segments := ["systems", machine.uuid, "packages"]
          body := some (.object [(if action.targetsGroups then "groups" else "packages",
            Json.ofList Json.string (Text.cleanList options.values))]) } ∧
      (∀ name, ∃ state, TaskState.ofJson? (.string name) = some state ∧
        (state.succeeded = true ↔ name = "finished" ∨ name = "succeeded")) ∧
      (i.run vars s).turns.map Turn.delivery =
        arrivals s.network.deliveries (i.run vars s).turns.length ∧
      ∃ found performed, (i.run vars s).turns = found ++ performed ∧
        (∀ t ∈ found, t.IsLookup ∧ t.Succeeds) ∧
        Performs c s.network.isListening session.polling machine.uuid action performed
          (i.run vars s).messages (i.run vars s).exitCode.number ∧
        ∀ colors, (i.run vars s).output colors =
          String.join ((i.run vars s).messages.map (Output.Message.render colors)) := by
  obtain ⟨found, hf⟩ : ∃ found, found = (Resolution.system org reference environment).run c s :=
    ⟨_, rfl⟩
  have silent : found.messages = [] :=
    hf ▸ (Resolution.isSilent_system org reference environment).messages_run s
  have listening : found.surroundings.network.isListening = s.network.isListening :=
    hf ▸ (Resolution.system org reference environment).isListening_run s
  have answered : ∀ t ∈ found.turns, t.Succeeds :=
    hf ▸ ((Resolution.system org reference environment).isFailFast_run s).2 ⟨machine, hm⟩
  have looked : ∀ t ∈ found.turns, t.IsLookup :=
    hf ▸ fun t => (Resolution.inquires_system org reference environment).isLookup_of_mem
  obtain ⟨performed, hp⟩ : ∃ performed, performed =
      (session.performAction machine.uuid action).run c found.surroundings := ⟨_, rfl⟩
  have performs : Performs c s.network.isListening session.polling machine.uuid action
      performed.turns performed.messages performed.exitCode.number := by
    rw [hp, ← listening]
    exact session.performs_performAction (interval_of_open? ho ▸ Nat.succ_pos 999) _ _ _
  have run_eq : i.run vars s = performed.after found.events := by
    rw [run_of_prepare hc ho (prepare_packages ht ha), run_bind, Ending.andThen_of_ok hm, hp, hf]
  refine ⟨?_, fun name => ⟨_, rfl, TaskState.succeeded_ofName name⟩, ?_, found.turns,
    performed.turns, ?_, fun t mem => ⟨looked t mem, answered t mem⟩, ?_,
    fun colors => (i.run vars s).output_eq colors⟩
  · rw [← PackageAction.names_of_ofOptions ha]
    rfl
  · rw [run_of_prepare hc ho (prepare_packages ht ha)]
    exact (map_delivery_turns_run _ s).1
  · rw [run_eq]
    exact Ending.turns_after _ _
  · rw [run_eq, Ending.messages_after]
    change messagesOf found.events = [] at silent
    rw [silent]
    exact performs

/-- A task that has ended at once is looked at all the same, and by the uuid that it began with. -/
theorem performs_run_of_ended_task :
    let i : Invocation :=
      { globals := { url := some "http://h/api" }
        command := .server (.packages { org := some "ACME", uuid := some "u" } none
          { install := some ["zsh", " "] }) }
    let s := Surroundings.replying ["\x7b\"uuid\":\"u\"\x7d",
      "\x7b\"uuid\":\"t\",\"state\":\"finished\"\x7d",
      "\x7b\"uuid\":\"v\",\"state\":\"succeeded\",\"result_description\":\"done\"\x7d"]
    ∃ c polling uuid found performed, (i.run [] s).turns = found ++ performed ∧
      Performs c true polling uuid (.install ["zsh"]) performed (i.run [] s).messages 0 ∧
      (i.run [] s).output false =
        "Performing remote action [ t ]... \nRemote action finished:\ndone\n" := by
  intro i s
  let c : Connection := { base := { scheme := "http", host := some (.name "h")
                                    route := .segments ["api"] } }
  let session : Session :=
    { org := none, strategy := .table, polling := .withTimeout none, reportDirectory := "." }
  have opens : i.open? [] s.files = .ok (c, session) := by decide +kernel
  have finds : ((Resolution.system "ACME" (.uuid "u") none).run c s).result.toBool = true := by
    decide +kernel
  have well : (i.run [] s).exitCode.number = 0 := by decide +kernel
  cases hm : ((Resolution.system "ACME" (.uuid "u") none).run c s).result with
  | error failure =>
    rw [hm] at finds
    cases finds
  | ok machine =>
    obtain ⟨-, -, -, found, performed, turns, -, performs, -⟩ :=
      @performs_run i [] s c session _ _ _ _ _ (.install ["zsh"]) machine rfl opens rfl
        (by decide) hm
    rw [well] at performs
    exact ⟨c, session.polling, machine.uuid, found, performed, turns, performs, by decide +kernel⟩

end Invocation

end HostConsole
