import HostConsole.Proofs.Waiting

/-!
# Secrecy of the password

The password of the settings goes into the header that tells the server who asks, and nowhere
else. Two runs whose settings differ in the text of the password alone are the same run, but for
that header.

## How two runs are compared

A run is looked at through a `view` of the header, which may hide as much of it as one likes.
Connections that have the same address and the same header in a view are alike, and programs run
alike over them (`Program.through_run`), because everything else that a connection is used for
depends on its address. Hiding the text of the header gives the comparison for two passwords, and
hiding nothing the one for settings without a user, where no header is made of the password.

## Main definitions

* `Ending.through`: a run with the headers as a view shows them
* `Settings.SameButPassword`: settings that differ in the text of the password alone
* `ServerCommand.runUnder`, `Settings.showing`: the runs of commands under given settings
* `Ending.Agrees`: two runs that differ in the text of the header alone

## Main results

* `Program.through_run`: programs run alike over alike connections
* `Settings.SameButPassword.agrees`: nothing but the header tells the password
-/

namespace HostConsole

/-! ## Views of a run -/

section Views

variable {α : Type} (view : Option String → Option String)

/-- The request with its header as the view shows it. -/
def WireRequest.through (w : WireRequest) : WireRequest :=
  { w with authorization := view w.authorization }

/-- The turn with its header as the view shows it. -/
def Turn.through (t : Turn) : Turn :=
  { t with request := t.request.through view }

/-- The event with its header as the view shows it, if it has one. -/
def Event.through : Event → Event
  | sent t => .sent (t.through view)
  | event => event

/-- The run with the headers as the view shows them. -/
def Ending.through (e : Ending α) : Ending α :=
  { e with events := e.events.map (Event.through view) }

/-- The watch with the headers as the view shows them. -/
def Connection.Watch.through (w : Connection.Watch) : Connection.Watch :=
  { w with events := w.events.map (Event.through view) }

theorem Ending.through_after (events : List Event) (e : Ending α) :
    (e.after events).through view =
      (e.through view).after (events.map (Event.through view)) := by
  simp [through, after]

theorem Connection.Watch.through_after (events : List Event) (w : Connection.Watch) :
    (w.after events).through view =
      (w.through view).after (events.map (Event.through view)) := by
  simp [through, after]

end Views

/-- A view that hides nothing shows the run as it is. -/
theorem Ending.through_id {α : Type} (e : Ending α) : e.through id = e := by
  have same : Event.through id = id := by
    funext event
    cases event <;> rfl
  rw [through, same, List.map_id]

/-! ## Alike connections -/

namespace Connection

variable {view : Option String → Option String} {c c' : Connection}

/-- The connections have the same address, and the same header in the view. -/
structure Alike (view : Option String → Option String) (c c' : Connection) : Prop where
  base : c.base = c'.base
  header : view c.authorization = view c'.authorization

namespace Alike

/-- Alike connections differ in their user alone. -/
theorem eq_with (h : Alike view c c') :
    c = { c' with username := c.username, password := c.password } := by
  obtain ⟨base, user, password⟩ := c
  obtain rfl : base = c'.base := h.base
  rfl

theorem obstacle? (h : Alike view c c') (isListening : Bool) (r : Request) :
    c.obstacle? isListening r = c'.obstacle? isListening r := by
  rw [h.eq_with]
  rfl

theorem receive (h : Alike view c c') (call : Call) (d : Delivery) :
    c.receive call d = c'.receive call d := by
  rw [h.eq_with]
  rfl

theorem through_turn (h : Alike view c c') (call : Call) (d : Delivery) :
    (c.turn call d).through view = (c'.turn call d).through view := by
  -- All of the request but the header is of the address, and the view shows the same header.
  simp only [Turn.through, turn, WireRequest.through, wire, h.header]
  rw [h.eq_with]
  rfl

theorem through_look (h : Alike view c c') (task : String) (d : Delivery) :
    (c.look task d).map (Event.through view) = (c'.look task d).map (Event.through view) := by
  have turn := h.through_turn (.lookup (.task task)) d
  simp only [look, List.map_cons, Event.through, turn]

/-- A watch over alike connections is the same in the view. -/
theorem through_watch (h : Alike view c c') (task : String) (polling : Polling) (started : Nat)
    (ds : List Delivery) (clock : Nat) :
    (c.watch task polling started ds clock).through view =
      (c'.watch task polling started ds clock).through view := by
  have settled {ds : List Delivery} {clock : Nat}
      (settles : (ds.getD 0 .nothing).settles task = true) :
      (c.watch task polling started ds clock).through view =
        (c'.watch task polling started ds clock).through view := by
    rw [watch_of_settles settles, watch_of_settles settles]
    simp only [Watch.through, h.through_look, snapshot, h.receive]
  -- The clock moves with every look, so the induction is on what arrives, for any clock.
  induction ds generalizing clock with
  | nil => exact settled rfl
  | cons d ds ih =>
    cases settles : d.settles task with
    | true => exact settled settles
    | false =>
      rw [watch_of_not_settles settles, watch_of_not_settles settles]
      split
      · -- The time is over.
        simp only [Watch.through, h.through_look]
      · rw [Watch.through_after, Watch.through_after, ih, List.map_append, List.map_append,
          h.through_look]

/-- An exchange over alike connections has the same result, and the same turns in the view. -/
theorem exchange (h : Alike view c c') (call : Call) (n : Network) :
    (c.exchange call n).result = (c'.exchange call n).result ∧
      (c.exchange call n).turns.map (Turn.through view) =
        (c'.exchange call n).turns.map (Turn.through view) ∧
      (c.exchange call n).network = (c'.exchange call n).network := by
  unfold Connection.exchange
  rw [h.obstacle?]
  cases c'.obstacle? n.isListening call.request with
  | some fault => exact ⟨rfl, rfl, rfl⟩
  | none =>
    cases n.deliveries with
    | nil => exact ⟨h.receive call .nothing, congrArg (fun t => [t]) (h.through_turn call _), rfl⟩
    | cons d ds => exact ⟨h.receive call d, congrArg (fun t => [t]) (h.through_turn call _), rfl⟩

end Alike

end Connection

/-- **Programs run alike over alike connections.** -/
theorem Program.through_run {α : Type} {view : Option String → Option String} {c c' : Connection}
    (h : Connection.Alike view c c') (p : Program α) (s : Surroundings) :
    (p.run c s).through view = (p.run c' s).through view := by
  -- Induction on the program: each step comes to the same, so that the same program follows it.
  induction p generalizing s with
  | done result => rfl
  | fail failure => rfl
  | tell message next ih =>
    simp only [run, Ending.through_after, ih]
  | ask call missing next ih =>
    -- The answer is the same, so the same program goes on behind it.
    obtain ⟨result, turns, network⟩ := h.exchange call s.network
    have events : (c.exchange call s.network).turns.map (Event.through view ∘ .sent) =
        (c'.exchange call s.network).turns.map (Event.through view ∘ .sent) := by
      change List.map (Event.sent ∘ Turn.through view) _ = List.map (Event.sent ∘ Turn.through view) _
      rw [← List.map_map, ← List.map_map, turns]
    simp only [run, result, network]
    cases (c'.exchange call s.network).result with
    | ok answer =>
      simp only [Ending.through_after, List.map_map, events, ih]
    | error fault =>
      simp only [Ending.through, List.map_map, events]
  | await task polling next ih =>
    have watched := h.through_watch task polling s.clock s.network.deliveries s.clock
    simp only [run, h.obstacle?]
    cases c'.obstacle? s.network.isListening (Lookup.task task).request with
    | some fault => rfl
    | none =>
      generalize c.watch task polling s.clock s.network.deliveries s.clock = watch at watched ⊢
      generalize c'.watch task polling s.clock s.network.deliveries s.clock = watch' at watched ⊢
      obtain ⟨result, events, left, clock⟩ := watch
      obtain ⟨result', events', left', clock'⟩ := watch'
      simp only [Connection.Watch.through, Connection.Watch.mk.injEq] at watched
      obtain ⟨rfl, seen, rfl, rfl⟩ := watched
      cases result with
      | ok ended => simp only [Ending.through_after, seen, ih]
      | error failure => simp only [Ending.through, seen]
  | save path bytes unwritable next ih =>
    simp only [run]
    cases s.files.write path bytes with
    | ok files => exact ih _
    | error fault => rfl

/-! ## Runs that agree -/

/-- A header without its text. -/
def hidden (header : Option String) : Option String :=
  header.map fun _ => ""

/-- The request without the text of its header. -/
def WireRequest.masked (w : WireRequest) : WireRequest :=
  w.through hidden

/-- The runs are the same for everybody who does not read the header of their requests. -/
structure Ending.Agrees (e e' : Ending ExitCode) : Prop where
  output : ∀ colors, e.output colors = e'.output colors
  /-- The failure and the text that tells of it. -/
  failure : e.result = e'.result
  complaints : ∀ colors, e.complaints colors = e'.complaints colors
  exitCode : e.exitCode = e'.exitCode
  sleeps : e.events.filterMap Event.sleep? = e'.events.filterMap Event.sleep?
  /-- The files, the clock, and what has not arrived. -/
  surroundings : e.surroundings = e'.surroundings
  requests : e.requests.map WireRequest.masked = e'.requests.map WireRequest.masked

namespace Ending

variable {e e' : Ending ExitCode}

theorem Agrees.refl (e : Ending ExitCode) : e.Agrees e :=
  ⟨fun _ => rfl, rfl, fun _ => rfl, rfl, rfl, rfl, rfl⟩

/-- What is read off the events without their headers is the same in every view. -/
theorem map_through {β : Type} {view : Option String → Option String} (read : Event → β)
    (hr : ∀ event : Event, read (event.through view) = read event) :
    (e.through view).events.map read = e.events.map read := by
  simp only [through, List.map_map]
  exact List.map_congr_left fun event _ => hr event

/-- Runs that are the same in a view that hides the text of the header agree. -/
theorem Agrees.of_through (h : e.through hidden = e'.through hidden) : e.Agrees e' := by
  have read {β : Type} (f : Event → β)
      (hf : ∀ event : Event, f (event.through hidden) = f event) :
      e.events.map f = e'.events.map f := by
    rw [← map_through f hf, h, map_through f hf]
  have result : e.result = e'.result := by
    change (e.through hidden).result = (e'.through hidden).result
    rw [h]
  have requests (e : Ending ExitCode) : (e.through hidden).requests =
      e.requests.map WireRequest.masked := by
    simp only [Ending.requests, turns, turnsOf, through, List.map_filterMap, List.filterMap_map]
    congr 1
    funext event
    cases event <;> rfl
  constructor
  case output =>
    intro colors
    exact congrArg String.join (read (Event.output colors) fun event => by cases event <;> rfl)
  case failure => exact result
  case complaints =>
    intro colors
    have complained := read (Event.complaint colors) fun event => by cases event <;> rfl
    unfold Ending.complaints
    rw [complained, result]
  case exitCode =>
    unfold Ending.exitCode
    rw [result]
  case sleeps =>
    have slept := read Event.sleep? fun event => by cases event <;> rfl
    have joined := congrArg (List.filterMap id) slept
    rwa [List.filterMap_map, List.filterMap_map] at joined
  case surroundings =>
    change (e.through hidden).surroundings = (e'.through hidden).surroundings
    rw [h]
  case requests => rw [← requests, h, requests]

end Ending

/-! ## Settings with two passwords -/

/-- The settings are the same but for the text of the password, which both have. -/
def Settings.SameButPassword (settings other : Settings) : Prop :=
  ∃ password otherPassword, settings.password = some password ∧
    other = { settings with password := some otherPassword }

/-- Showing the settings. -/
def Settings.showing (settings : Settings) (s : Surroundings) : Ending ExitCode :=
  match settings.toText with
  | .ok text => .ofEvents s [.told (.line text)]
  | .error failure => .ofResult s (.error failure)

/-- The run of a command under settings. -/
def ServerCommand.runUnder (command : ServerCommand) (settings : Settings) (globals : Globals)
    (s : Surroundings) : Ending ExitCode :=
  match Connection.ofSettings settings with
  | .error failure => .ofResult s (.error failure)
  | .ok c =>
    match command.prepare (.of settings globals) with
    | .error failure => .ofResult s (.error failure)
    | .ok program => program.run c s

namespace Invocation

variable {i : Invocation} {vars : Variables} {s : Surroundings} {settings : Settings}

/-- A command that shows the settings shows those of its invocation. -/
theorem run_eq_showing (hs : i.globals.settings vars s.files = .ok settings)
    (hc : i.command = .config .display) : i.run vars s = settings.showing s := by
  simp only [run, hc, ConfigCommand.run, ConfigCommand.showSettings, hs]
  rfl

/-- Without settings a command that talks to the server does nothing. -/
theorem run_of_settings_eq_error {failure : Failure} {command : ServerCommand}
    (hs : i.globals.settings vars s.files = .error failure) (hc : i.command = .server command) :
    i.run vars s = .ofResult s (.error failure) := by
  simp only [run, hc, serve, open?, hs]
  rfl

/-- A command that talks to the server runs under the settings of its invocation. -/
theorem run_eq_runUnder (hs : i.globals.settings vars s.files = .ok settings)
    {command : ServerCommand} (hc : i.command = .server command) :
    i.run vars s = command.runUnder settings i.globals s := by
  have opens : i.open? vars s.files =
      (Connection.ofSettings settings).map fun c => (c, Session.of settings i.globals) := by
    rw [open?, hs]
    change (Connection.ofSettings settings >>= fun c => pure (c, Session.of settings i.globals)) = _
    cases Connection.ofSettings settings <;> rfl
  simp only [run, hc, serve, opens, ServerCommand.runUnder, Command.prepare]
  cases Connection.ofSettings settings with
  | error failure => rfl
  | ok c => rfl

end Invocation

namespace Settings.SameButPassword

variable {settings other : Settings}

/-- The password is masked where settings are shown. -/
theorem toText_eq (h : settings.SameButPassword other) : settings.toText = other.toText := by
  obtain ⟨p, q, hp, rfl⟩ := h
  simp only [toText, hp]
  rfl

/-- The connections of the settings, if they have any. -/
theorem connections (h : settings.SameButPassword other) :
    (∃ failure, Connection.ofSettings settings = .error failure ∧
      Connection.ofSettings other = .error failure) ∨
    ∃ c c', Connection.ofSettings settings = .ok c ∧ Connection.ofSettings other = .ok c' ∧
      Connection.Alike hidden c c' ∧
      (settings.username = none → Connection.Alike id c c') := by
  obtain ⟨p, q, hp, rfl⟩ := h
  unfold Connection.ofSettings
  dsimp only
  cases Address.read settings.url with
  | error fault => exact .inl ⟨_, rfl, rfl⟩
  | ok base =>
    dsimp only
    split
    · exact .inl ⟨_, rfl, rfl⟩
    · refine .inr ⟨_, _, rfl, rfl, ⟨rfl, ?_⟩, fun unnamed => ⟨rfl, ?_⟩⟩
      · -- There is a header on both sides or on none.
        simp only [Connection.authorization, Connection.credentials?]
        cases settings.username <;> rfl
      · -- Without a user the header is that of the address.
        simp only [Connection.authorization, Connection.credentials?, unnamed]

theorem agrees_runUnder (h : settings.SameButPassword other) (command : ServerCommand)
    (globals : Globals) (s : Surroundings) :
    (command.runUnder settings globals s).Agrees (command.runUnder other globals s) ∧
      (settings.username = none →
        command.runUnder settings globals s = command.runUnder other globals s) := by
  -- Sessions do not know of passwords.
  have session : Session.of other globals = Session.of settings globals := by
    obtain ⟨p, q, hp, rfl⟩ := h
    rfl
  unfold ServerCommand.runUnder
  rcases h.connections with ⟨failure, hc, hc'⟩ | ⟨c, c', hc, hc', masked, unnamed⟩
  · simp only [hc, hc']
    exact ⟨.refl _, fun _ => trivial⟩
  · simp only [hc, hc', session]
    cases command.prepare (Session.of settings globals) with
    | error failure => exact ⟨.refl _, fun _ => rfl⟩
    | ok program =>
      refine ⟨.of_through (program.through_run masked s), fun none => ?_⟩
      have same := program.through_run (unnamed none) s
      rwa [Ending.through_id, Ending.through_id] at same

/-- **Nothing but the header of the requests tells the password.** Under settings that differ in
its text alone the same is shown, and every command runs the same but for that header, or entirely
if no user is set. -/
theorem agrees (h : settings.SameButPassword other) :
    settings.toText = other.toText ∧
      (∀ s, settings.showing s = other.showing s) ∧
      (∀ (command : ServerCommand) (globals : Globals) (s : Surroundings),
        (command.runUnder settings globals s).Agrees (command.runUnder other globals s) ∧
          (settings.username = none →
            command.runUnder settings globals s = command.runUnder other globals s)) ∧
      ∀ (given : Settings) (i : Invocation) (vars : Variables) (s : Surroundings),
        i.globals.settings vars s.files = .ok given →
        (i.command = .config .display → i.run vars s = given.showing s) ∧
          ∀ command, i.command = .server command →
            i.run vars s = command.runUnder given i.globals s := by
  refine ⟨h.toText_eq, fun s => ?_, h.agrees_runUnder, fun given i vars s hs => ?_⟩
  · rw [Settings.showing, Settings.showing, h.toText_eq]
  · exact ⟨Invocation.run_eq_showing hs, fun command => Invocation.run_eq_runUnder hs⟩

/-- Two passwords of a user go out in different headers, and that is all. -/
theorem agrees_of_two_passwords :
    let settings : Settings :=
      { url := "http://h/api", username := some "admin", password := some "a" }
    let other : Settings :=
      { url := "http://h/api", username := some "admin", password := some "b" }
    let command : ServerCommand := .unregister { org := some "ACME", uuid := some "u" } none
    let s := Surroundings.replying ["\x7b\"uuid\":\"u\"\x7d", ""]
    ((command.runUnder settings {} s).requests.map (·.authorization)) =
        [some "Basic YWRtaW46YQ==", some "Basic YWRtaW46YQ=="] ∧
      ((command.runUnder other {} s).requests.map (·.authorization)) =
        [some "Basic YWRtaW46Yg==", some "Basic YWRtaW46Yg=="] ∧
      settings.toText = other.toText ∧
      (command.runUnder settings {} s).Agrees (command.runUnder other {} s) := by
  intro settings other command s
  have same : settings.SameButPassword other := ⟨"a", "b", rfl, rfl⟩
  obtain ⟨shown, -, agree, -⟩ := agrees same
  exact ⟨by decide +kernel, by decide +kernel, shown, (agree command {} s).1⟩

end Settings.SameButPassword

end HostConsole
