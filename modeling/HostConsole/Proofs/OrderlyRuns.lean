import HostConsole.Proofs.Route

/-!
# Orderly runs

A run of the console looks things up, asks for at most one change behind lookups that all
succeeded, and then looks at nothing but the task of a package action.

The form comes from three sides. That the turns are phased is a matter of the program, that the
lookups before the change succeeded is a matter of how programs run, and that a lookup goes out as
a get and a change does not is a matter of the calls. The turns are the requests that a program
asks for. A redirection that the client follows by itself is no turn of its own (see `Turn`).

## Main definitions

* `IsOrderly`: the form of a conversation

## Main results

* `Invocation.run_cases`, `Invocation.run_server_cases`: a run without turns, or the run of a
  program
* `Invocation.isOrderly_run`: every run is orderly, whatever the server replies
-/

namespace HostConsole

/-- Lookups, then perhaps a change, if they all succeeded, and then looks at the task that it
started, if it was a package action. -/
inductive IsOrderly : List Turn → Prop where
  | looking {looks : List Turn} (looked : ∀ t ∈ looks, t.request.method = .get) : IsOrderly looks
  | changing {looks polls : List Turn} {changed : Turn}
      (looked : ∀ t ∈ looks, t.request.method = .get ∧ t.Succeeds)
      (changes : changed.request.method ≠ .get)
      (polled : ∀ t ∈ polls, t.request.method = .get ∧ changed.Polls t) :
      IsOrderly (looks ++ changed :: polls)

namespace Program

variable {α : Type} {p : Program α} {allowed : Change → Prop} {c : Connection}

/-- The run of a program that changes once is orderly. -/
theorem ChangesOnce.isOrderly (h : p.ChangesOnce allowed) (s : Surroundings) :
    IsOrderly (p.run c s).turns := by
  have sound : ∀ t ∈ (p.run c s).turns, t = c.turn t.call t.delivery := fun t ht =>
    p.turn_of_mem_turns_run ht
  have method_of_lookup {t : Turn} (ht : t ∈ (p.run c s).turns) {l : Lookup}
      (hl : t.call = .lookup l) : t.request.method = .get := by
    rw [sound t ht, hl]
    exact l.request_method
  have succeeded := (p.isFailFast_run (c := c) s).1
  have phased := h.phased_run (c := c) s
  generalize (p.run c s).turns = turns at *
  cases phased with
  | looking looked =>
    refine .looking fun t ht => ?_
    obtain ⟨l, hl⟩ := looked t ht
    exact method_of_lookup ht hl
  | @changing looks polls changed ch looked asked ok polled =>
    have mem_changed : changed ∈ looks ++ changed :: polls := by simp
    refine .changing ?_ ?_ ?_
    · -- None of the lookups is the last turn, for the change comes behind them.
      intro t ht
      have mem_dropLast : t ∈ (looks ++ changed :: polls).dropLast := by
        rw [List.dropLast_append_of_ne_nil (List.cons_ne_nil _ _)]
        exact List.mem_append_left _ ht
      obtain ⟨l, hl⟩ := looked t ht
      exact ⟨method_of_lookup (List.mem_append_left _ ht) hl, succeeded t mem_dropLast⟩
    · rw [sound changed mem_changed, asked]
      exact ch.request_method_ne
    · intro t ht
      obtain ⟨_, _, _, task, _, hl⟩ := polled t ht
      have mem : t ∈ looks ++ changed :: polls :=
        List.mem_append_right _ (List.mem_cons_of_mem _ ht)
      exact ⟨method_of_lookup mem hl, polled t ht⟩

end Program

/-- The commands about the settings do not talk to the server. -/
theorem ConfigCommand.turns_run (command : ConfigCommand) (globals : Globals) (vars : Variables)
    (s : Surroundings) : (command.run globals vars s).turns = [] := by
  cases command with
  | display =>
    change (showSettings globals vars s).turns = []
    unfold showSettings
    split <;> rfl
  | init force =>
    change (beginFile globals vars force s).turns = []
    unfold beginFile
    split
    · rfl
    · split
      · rfl
      · split
        · rfl
        · split <;> rfl
  | locate =>
    change turnsOf (_ :: globals.config.toList.map _) = []
    cases configurationPath? vars <;> cases globals.config <;> rfl

namespace Invocation

variable (i : Invocation) (vars : Variables) (s : Surroundings)

/-- A run makes no turns, or it is the run of a command's program. -/
theorem run_cases : (i.run vars s).turns = [] ∨
    ∃ command c session program, i.command = .server command ∧
      i.open? vars s.files = .ok (c, session) ∧ command.prepare session = .ok program ∧
      i.run vars s = program.run c s := by
  unfold run
  split
  · next command hc =>
    unfold serve
    split
    · exact .inl rfl
    · next c session ho =>
      rw [hc]
      split
      · exact .inl rfl
      · next program hp => exact .inr ⟨command, c, session, program, rfl, ho, hp, rfl⟩
  · next command _ => exact .inl (command.turns_run i.globals vars s)
  · exact .inl rfl

/-- A command that talks to the server ends at its settings or at its options, or it runs its
program. -/
theorem run_server_cases {command : ServerCommand} (hc : i.command = .server command) :
    (∃ failure, i.open? vars s.files = .error failure ∧
      i.run vars s = .ofResult s (.error failure)) ∨
    ∃ c session, i.open? vars s.files = .ok (c, session) ∧
      ((∃ failure, command.prepare session = .error failure ∧
          i.run vars s = .ofResult s (.error failure)) ∨
        ∃ program, command.prepare session = .ok program ∧ i.run vars s = program.run c s) := by
  simp only [run, serve, hc, Command.prepare]
  cases ho : i.open? vars s.files with
  | error failure => exact .inl ⟨failure, rfl, rfl⟩
  | ok opened =>
    obtain ⟨c, session⟩ := opened
    refine .inr ⟨c, session, rfl, ?_⟩
    dsimp only
    cases hp : command.prepare session with
    | error failure => exact .inl ⟨failure, rfl, rfl⟩
    | ok program => exact .inr ⟨program, rfl, rfl⟩

variable {i vars s} in
/-- Where a command that talks to the server makes a turn, it runs its program. -/
theorem exists_program_of_mem {command : ServerCommand} (hc : i.command = .server command)
    {t : Turn} (ht : t ∈ (i.run vars s).turns) :
    ∃ c session program, i.open? vars s.files = .ok (c, session) ∧
      command.prepare session = .ok program ∧ i.run vars s = program.run c s := by
  rcases i.run_server_cases vars s hc with
    ⟨failure, -, he⟩ | ⟨c, session, ho, ⟨failure, -, he⟩ | ⟨program, hp, he⟩⟩
  · -- Without a program there are no turns.
    rw [he] at ht
    cases ht
  · rw [he] at ht
    cases ht
  · exact ⟨c, session, program, ho, hp, he⟩

variable {i vars s} in
/-- A command that is refused once the organisation is known ends at its settings, at the
organisation, or there; in no case is anything sent. -/
theorem run_of_refused {command : ServerCommand} (hc : i.command = .server command)
    {given : Option String} {failure : Failure} (usage : failure.exitCode = .usage)
    (refused : ∀ session : Session, command.prepare session =
      session.organisation given >>= fun _ => .error failure) :
    (i.run vars s).turns = [] ∧
      (∀ earlier, i.open? vars s.files = .error earlier →
        (i.run vars s).result = .error earlier) ∧
      ∀ c session, i.open? vars s.files = .ok (c, session) →
        (i.run vars s).exitCode = .usage ∧
        (given.or session.org = none →
          (i.run vars s).result = .error (.usage .organisationMissing)) ∧
        (given.or session.org ≠ none → (i.run vars s).result = .error failure) := by
  rcases i.run_server_cases vars s hc with
    ⟨earlier, ho, he⟩ | ⟨c, session, ho, ⟨shown, hp, he⟩ | ⟨program, hp, -⟩⟩
  · -- The run ends before the options are looked at.
    rw [he, ho]
    refine ⟨rfl, fun other same => ?_, fun c session same => ?_⟩ <;> cases same
    rfl
  · -- The command is refused, for the organisation or behind it.
    rw [he, ho]
    refine ⟨rfl, fun other same => ?_, fun c' session' same => ?_⟩ <;> cases same
    rw [refused, Session.organisation] at hp
    cases org : given.or session.org with
    | none =>
      rw [org] at hp
      cases hp
      exact ⟨rfl, fun _ => rfl, fun some_org => absurd rfl some_org⟩
    | some org =>
      rw [org] at hp
      cases hp
      exact ⟨usage, nofun, fun _ => rfl⟩
  · -- No program comes of a refusal.
    rw [refused, Session.organisation] at hp
    cases org : given.or session.org <;> rw [org] at hp <;> cases hp

/-- **Every run is orderly.** Its turns are requests to the server of the settings, and what
arrived for them, in this order. -/
theorem isOrderly_run : IsOrderly (i.run vars s).turns ∧
    (∀ t ∈ (i.run vars s).turns, ∃ c session, i.open? vars s.files = .ok (c, session) ∧
      t = c.turn t.call t.delivery) ∧
    (i.run vars s).turns.map Turn.delivery =
      arrivals s.network.deliveries (i.run vars s).turns.length := by
  rcases i.run_cases vars s with he | ⟨command, c, session, program, -, ho, hp, he⟩
  · rw [he]
    exact ⟨.looking (by simp), by simp, by simp⟩
  · rw [he]
    refine ⟨?_, ?_, ?_⟩
    · exact (ServerCommand.changesOnce hp).isOrderly s
    · intro t ht
      exact ⟨c, session, ho, program.turn_of_mem_turns_run ht⟩
    · exact (program.map_delivery_turns_run s).1

end Invocation

/-! ## Single runs -/

/-- The command that unregisters a system, at the server of a fixed address. -/
def Invocation.unregistering (name uuid : Option String) : Invocation :=
  { globals := { url := some "http://h/api" }
    command := .server (.unregister { org := some "ACME", name, uuid } none) }

/-- Surroundings in which successful replies with some contents arrive. -/
def Surroundings.replying (contents : List String) : Surroundings :=
  { network :=
      { isListening := true
        deliveries := contents.map fun text => .reply { status := 200, body := Utf8.bytes text } }
    files := Files.ofEntries [] [] }

end HostConsole
