import HostConsole.Proofs.Finding
import HostConsole.Proofs.OrderlyRuns

/-!
# The gate of names

A name has to lead to exactly one system before a command does anything with it. Where the
environment is not there, or no system or several ones bear the name, the run ends behind the
reply that tells so.

Three layers carry this. `Program.look_bind_turn` is about the first turn of any program that
begins with a lookup. `Route.Lists.decides` is about the listing, which every route comes to, with
or without an environment before it. `gate_of_single` is about every program that goes on with the
only system of a name. The commands come in last, by the route that they go.

## Main definitions

* `Turn.FindsNothing`: a turn that found nothing
* `Decides`: what becomes of a run behind a listing
* `Ending.Rejects`: an end that is the user's data to blame for
* `Gate`: what becomes of a run behind each reply to a lookup of the gate

## Main results

* `Route.Lists.decides`: the listing of the systems of a name decides what becomes of a run
* `Invocation.gate_run`: every run of a command with a name goes through the gate
-/

namespace HostConsole

open Program

/-! ## Runs through the gate -/

/-- The server has nothing for the turn, or there is nothing in what it told. -/
def Turn.FindsNothing {α : Type} (t : Turn) (told : Option (List α)) : Prop :=
  t.delivery.IsNotFound ∨ told = some []

namespace Program

variable {α : Type} {c : Connection} {s : Surroundings} {t : Turn} {after : List Turn}

/-- The first turn of a program that begins with a lookup. -/
theorem look_bind_turn {l : Lookup} {missing : Failure} {next : l.Answer → Program α}
    {e : Ending α} (he : e = (look l (some missing) >>= next).run c s)
    (ht : e.turns = t :: after) :
    t.call = .lookup l ∧
    (t.delivery.IsNotFound → after = [] ∧ e.result = .error missing) ∧
    ∀ answer, t.delivery.answer? (.lookup l) = some answer →
      ∃ s', s'.network.isListening = s.network.isListening ∧
        after = ((next answer).run c s').turns ∧ e.result = ((next answer).run c s').result := by
  rcases run_ask (c := c) (.lookup l) (some missing) next s with
    ⟨fault, -, hn, -⟩ | ⟨d, answer, s', hd, hl, hr⟩ | ⟨d, fault, hd, hf, hn, hr⟩
  · -- A request that cannot go out makes no turn.
    have silent : e.turns = [] := by rw [he]; exact hn
    rw [silent] at ht
    cases ht
  · -- The answer decides the rest of the run.
    replace he : e = ((next answer).run c s').after [.sent (c.turn (.lookup l) d)] := he.trans hr
    rw [he, Ending.turns_after] at ht
    obtain ⟨rfl, rfl⟩ := List.cons.inj ht
    refine ⟨rfl, fun h => ?_, fun told htold => ?_⟩
    · cases hd.symm.trans (Connection.answer?_of_isNotFound h)
    · obtain rfl : answer = told := Option.some.inj (hd.symm.trans htold)
      exact ⟨s', hl, rfl, by rw [he]; rfl⟩
  · -- Without an answer the run ends behind this turn.
    have only : e.turns = [c.turn (.lookup l) d] := by rw [he]; exact hn
    rw [only] at ht
    obtain ⟨rfl, rfl⟩ := List.cons.inj ht
    refine ⟨rfl, fun h => ⟨rfl, ?_⟩, fun told htold => ?_⟩
    · rw [he]
      exact hr.trans (by rw [RemoteFault.failure, if_pos (hf h)])
    · cases hd.symm.trans htold

end Program

/-- What becomes of a run behind a listing of the systems of a name. -/
structure Decides (c : Connection) (isListening : Bool) (org name : String)
    (rest : Machine → Program ExitCode) (told : Option (List Machine)) (t : Turn)
    (after : List Turn) (result : Except Failure ExitCode) : Prop where
  nothing : t.FindsNothing told → after = [] ∧ result = .error (.systemNotFound (.name name) org)
  several : ∀ found, told = some found → 2 ≤ found.length →
    after = [] ∧ result = .error (.ambiguousSystem (.name name) org found.length)
  single : ∀ only, told = some [only] → ∃ s : Surroundings,
    s.network.isListening = isListening ∧ after = ((rest only).run c s).turns ∧
      result = ((rest only).run c s).result

/-- A listing decides how a program goes on that has to find exactly one system. -/
theorem Program.decides_of_look {c : Connection} {s : Surroundings} {t : Turn}
    {after : List Turn} {l : Lookup} {view : l.Answer → List Machine} {org name : String}
    {rest : Machine → Program ExitCode} {e : Ending ExitCode}
    (he : e = (look l (some (.systemNotFound (.name name) org)) >>= fun found =>
      require (Resolution.exactlyOne (view found) (.name name) org) >>= rest).run c s)
    (ht : e.turns = t :: after)
    (hv : t.call = .lookup l → t.listed? = (t.delivery.answer? (.lookup l)).map view) :
    t.call = .lookup l ∧
      Decides c s.network.isListening org name rest t.listed? t after e.result := by
  obtain ⟨hc, hn, ha⟩ := look_bind_turn he ht
  -- What the rest of the program makes of the systems that were listed.
  have told {found : List Machine} (h : t.listed? = some found) :
      ∃ s', s'.network.isListening = s.network.isListening ∧
        after = ((require (Resolution.exactlyOne found (.name name) org) >>= rest).run c s').turns ∧
        e.result =
          ((require (Resolution.exactlyOne found (.name name) org) >>= rest).run c s').result := by
    obtain ⟨answer, hd, rfl⟩ := Option.map_eq_some_iff.mp ((hv hc).symm.trans h)
    exact ha answer hd
  refine ⟨hc, ⟨?_, ?_, ?_⟩⟩
  · rintro (h | h)
    · exact hn h
    · obtain ⟨s', -, rfl, hr⟩ := told h
      exact ⟨rfl, hr⟩
  · intro found h h2
    obtain ⟨s', -, rfl, hr⟩ := told h
    rcases found with _ | ⟨first, _ | ⟨second, others⟩⟩
    · cases h2
    · cases Nat.not_succ_le_self 1 h2
    · exact ⟨rfl, hr⟩
  · intro only h
    obtain ⟨s', hl, rfl, hr⟩ := told h
    exact ⟨s', hl, rfl, hr⟩

namespace Route

variable {c : Connection} {s : Surroundings} {t : Turn} {before after : List Turn}
  {route : Route} {org name : String} {rest : Machine → Program ExitCode} {e : Ending ExitCode}

/-- The program that lists the systems of a name and goes on with the only one. -/
def single (org name : String) (route : Route) (rest : Machine → Program ExitCode) :
    Program ExitCode :=
  route.candidates org name >>= fun found =>
    require (Resolution.exactlyOne found (.name name) org) >>= rest

theorem find_name_bind (rest : route.Found → Program ExitCode) :
    route.find org (.name name) >>= rest =
      route.single org name fun only => route.settle org name only >>= rest := by
  rw [find_name, bind_assoc]
  exact bind_congr fun _ => bind_assoc _ _ _

/-- In an environment the systems are listed once the environment is there. -/
theorem single_of_place {place : String} (h : route.place? = some place) :
    route.single org name rest =
      look (.environments org (some place)) (some (.environmentNotFound place org)) >>=
        fun (found : List Environment) => match found with
          | first :: _ =>
            look (.systemsOfEnvironment first.id { name := some name })
                (some (.systemNotFound (.name name) org)) >>= fun found =>
              require (Resolution.exactlyOne found (.name name) org) >>= rest
          | [] => fail (.environmentNotFound place org) := by
  unfold single candidates
  rw [h]
  -- Both sides ask for the environment; what differs is where the match on it stands.
  refine congrArg (look _ _ >>= ·) (funext fun (found : List Environment) => ?_)
  cases found <;> rfl

theorem single_of_no_place (h : route.place? = none) :
    route.single org name rest =
      look (.systemsOfOrganisation org { name := some name })
          (some (.systemNotFound (.name name) org)) >>= fun (found : List Machine) =>
        require (Resolution.exactlyOne found (.name name) org) >>= rest := by
  unfold single candidates
  rw [h]
  rfl

theorem environment_turn {place : String} (h : route.place? = some place)
    (he : e = (route.single org name rest).run c s) (ht : e.turns = t :: after) :
    t.call = .lookup (.environments org (some place)) ∧
      (t.FindsNothing t.environments? →
        after = [] ∧ e.result = .error (.environmentNotFound place org)) := by
  rw [single_of_place h] at he
  obtain ⟨hc, hn, ha⟩ := look_bind_turn he ht
  refine ⟨hc, ?_⟩
  rintro (hd | hd)
  · exact hn hd
  · obtain ⟨s', -, rfl, hr⟩ := ha [] ((Turn.environments?_eq hc).symm.trans hd)
    exact ⟨rfl, hr⟩

/-- The listing of the systems of a name decides, wherever the route looks for them. -/
theorem Lists.decides {l : Lookup} (h : route.Lists org name before l)
    (he : e = (route.single org name rest).run c s) (ht : e.turns = before ++ t :: after) :
    t.call = .lookup l ∧
      Decides c s.network.isListening org name rest t.listed? t after e.result := by
  cases h with
  | organisation h =>
    rw [single_of_no_place h] at he
    -- The answer is the list of systems itself.
    exact decides_of_look he ht fun hc =>
      (Turn.listed?_of_organisation hc).trans Option.map_id_apply.symm
  | @environment place asked first others h asks found =>
    -- The turn before was told of the environment, so the listing is its own.
    rw [single_of_place h] at he
    obtain ⟨-, -, ha⟩ := look_bind_turn he ht
    have told := (Turn.environments?_eq asks).symm.trans found
    obtain ⟨s', hl, hafter, hr⟩ := ha (first :: others) told
    rw [hr, ← hl]
    exact decides_of_look rfl hafter.symm fun hc =>
      (Turn.listed?_of_environment hc).trans Option.map_id_apply.symm

end Route

/-! ## The gate -/

/-- The run ends behind some lookups with a failure of exit code 65, and has not changed
anything. -/
structure Ending.Rejects (e : Ending ExitCode) (turns : List Turn) (failure : Failure) : Prop where
  turns_eq : e.turns = turns
  result_eq : e.result = .error failure
  exitCode_eq : e.exitCode.number = 65
  looked : ∀ t ∈ turns, t.request.method = .get

/-- The next turn is a lookup, or there is none because it cannot go out. -/
def Proceeds (c : Connection) (isListening : Bool) (l : Lookup) (after : List Turn)
    (result : Except Failure ExitCode) : Prop :=
  (∃ t later, after = t :: later ∧ t.call = .lookup l) ∨
    after = [] ∧ ∃ fault, c.obstacle? isListening l.request = some fault ∧
      result = .error (.remote fault)

/-- How a route goes on with the only system of a name: with its full record, or by the listing
with the groups, and then with a change of that system. -/
def Route.GoesOn (c : Connection) (isListening : Bool) (org : String) (only : Machine)
    (after : List Turn) (result : Except Failure ExitCode) : Route → Prop
  | record _ | direct => Proceeds c isListening (.system only.uuid) after result
  | listing =>
    (∃ names, Proceeds c isListening (.systemGroups org names) after result) ∧
      ∀ t ∈ after, ∀ ch, t.call = .change ch → ch.AimsAt only.uuid

/-- What becomes of a run behind each reply to a lookup of the gate. -/
structure Gate (c : Connection) (isListening : Bool) (org name : String) (route : Route)
    (e : Ending ExitCode) : Prop where
  /-- The environment is asked for first, and has to be there. -/
  environment : ∀ {place t after}, route.place? = some place → e.turns = t :: after →
    t.call = .lookup (.environments org (some place)) ∧
      (t.FindsNothing t.environments? → e.Rejects [t] (.environmentNotFound place org))
  /-- The systems of the name are listed next, and there have to be some. -/
  nothing : ∀ {before t after l}, route.Lists org name before l →
    e.turns = before ++ t :: after → t.call = .lookup l ∧
      (t.FindsNothing t.listed? → e.Rejects (before ++ [t]) (.systemNotFound (.name name) org))
  /-- There has to be no other one. -/
  several : ∀ {before t after l found}, route.Lists org name before l →
    e.turns = before ++ t :: after → t.listed? = some found → 2 ≤ found.length →
    e.Rejects (before ++ [t]) (.ambiguousSystem (.name name) org found.length)
  /-- The only one is the system of the name. -/
  single : ∀ {before t after l only}, route.Lists org name before l →
    e.turns = before ++ t :: after → t.listed? = some [only] →
    route.GoesOn c isListening org only after e.result

section Gate

variable {c : Connection} {s : Surroundings} {route : Route} {org name : String}
  {e : Ending ExitCode}

/-- A program that begins with a lookup proceeds with it. -/
theorem proceeds_run (l : Lookup) (missing : Option Failure) (next : l.Answer → Program ExitCode) :
    Proceeds c s.network.isListening l ((look l missing >>= next).run c s).turns
      ((look l missing >>= next).run c s).result := by
  rcases run_ask (c := c) (.lookup l) missing next s with
    ⟨fault, ho, hn, hr⟩ | ⟨d, answer, s', -, -, hr⟩ | ⟨d, fault, -, -, hn, -⟩
  · exact .inr ⟨hn, fault, ho, hr⟩
  · exact .inl ⟨c.turn (.lookup l) d, ((next answer).run c s').turns, congrArg Ending.turns hr, rfl⟩
  · exact .inl ⟨_, [], hn, rfl⟩

/-- A run without turns has passed no lookup of the gate. -/
theorem Gate.of_turns_eq_nil {isListening : Bool} (h : e.turns = []) :
    Gate c isListening org name route e where
  environment := fun _ ht => by rw [h] at ht; cases ht
  nothing := fun _ ht => by rw [h] at ht; simp at ht
  several := fun _ ht => by rw [h] at ht; simp at ht
  single := fun _ ht => by rw [h] at ht; simp at ht

/-- A failure behind lookups rejects a run, if the data are to blame. -/
theorem rejects_of_isLookup {p : Program ExitCode} {turns : List Turn} {failure : Failure}
    (he : e = p.run c s) (ht : e.turns = turns) (hr : e.result = .error failure)
    (hf : failure.exitCode = .badData) (hl : ∀ t ∈ turns, t.IsLookup) :
    e.Rejects turns failure where
  turns_eq := ht
  result_eq := hr
  exitCode_eq := by
    have code : e.exitCode = failure.exitCode := by rw [Ending.exitCode, hr]
    rw [code, hf]
    rfl
  looked := fun t hm => by
    obtain ⟨l, hl⟩ := hl t hm
    rw [← ht, he] at hm
    rw [p.turn_of_mem_turns_run hm, hl]
    exact l.request_method

/-- A program that lists the systems of a name and goes on with the only one passes the gate. -/
theorem gate_of_single {rest : Machine → Program ExitCode}
    (he : e = (route.single org name rest).run c s)
    (hg : ∀ only s', s'.network.isListening = s.network.isListening →
      route.GoesOn c s.network.isListening org only ((rest only).run c s').turns
        ((rest only).run c s').result) :
    Gate c s.network.isListening org name route e := by
  have looks {before after : List Turn} {t : Turn} {l : Lookup}
      (hl : route.Lists org name before l) (ht : e.turns = before ++ t :: after) :
      ∀ u ∈ before ++ [t], u.IsLookup := by
    have last : t.IsLookup := ⟨l, (hl.decides he ht).1⟩
    cases hl with
    | organisation h => simpa using last
    | environment h asks found => simpa using ⟨⟨_, asks⟩, last⟩
  refine ⟨?_, ?_, ?_, ?_⟩
  · -- the environment
    intro place t after hp ht
    obtain ⟨hc, hn⟩ := Route.environment_turn hp he ht
    refine ⟨hc, fun h => ?_⟩
    obtain ⟨rfl, hr⟩ := hn h
    exact rejects_of_isLookup he ht hr rfl (by simpa using ⟨_, hc⟩)
  · -- no system of the name
    intro before t after l hl ht
    obtain ⟨hc, hd⟩ := hl.decides he ht
    refine ⟨hc, fun h => ?_⟩
    obtain ⟨rfl, hr⟩ := hd.nothing h
    exact rejects_of_isLookup he ht hr rfl (looks hl ht)
  · -- several systems of the name
    intro before t after l found hl ht hf h2
    obtain ⟨rfl, hr⟩ := (hl.decides he ht).2.several _ hf h2
    exact rejects_of_isLookup he ht hr rfl (looks hl ht)
  · -- the only system of the name
    intro before t after l only hl ht ho
    obtain ⟨s', hs, rfl, hr⟩ := (hl.decides he ht).2.single _ ho
    rw [hr]
    exact hg _ s' hs

/-- A program that goes a route by the full record passes the gate. -/
theorem gate_of_begins {p : Program ExitCode} (h : route.Begins org (.name name) p)
    (hr : route ≠ .listing) (he : e = p.run c s) :
    Gate c s.network.isListening org name route e := by
  obtain ⟨rest, rfl, -⟩ := h
  rw [Route.find_name_bind] at he
  cases route with
  | record environment =>
    exact gate_of_single he fun only s' hs => hs ▸ proceeds_run (.system only.uuid) _ rest
  | direct =>
    exact gate_of_single he fun only s' hs =>
      hs ▸ proceeds_run (.system only.uuid) _ fun machine => rest machine.uuid
  | listing => exact absurd rfl hr

/-- A program that looks groups up behind the listing passes the gate. -/
theorem gate_of_membership {p : Program ExitCode} {names : List String}
    (h : Membership.Begins org (.name name) names p) (he : e = p.run c s) :
    Gate c s.network.isListening org name .listing e := by
  obtain ⟨next, rfl, hn⟩ := h
  -- The route ends at the listing, and what it settles on is the record in it.
  have hs := he.trans (congrArg (·.run c s) (Route.listing.find_name_bind _))
  refine gate_of_single hs fun only s' hl => ⟨⟨names, ?_⟩, ?_⟩
  · exact hl ▸ proceeds_run (.systemGroups org names) none (next only)
  · intro t ht ch hc
    have changes : (look (.systemGroups org names) >>= next only).ChangesOnce
        (Change.AimsAt only.uuid) := fun groups => hn only groups
    exact (changes.phased_run s').allowed_of_mem ht hc

end Gate

namespace Invocation

/-- **Every run of a command with a name goes through the gate**, whatever the server replies. -/
theorem gate_run {i : Invocation} {vars : Variables} {s : Surroundings} {command : ServerCommand}
    {c : Connection} {session : Session} {system : Selector} {route : Route} {org name : String}
    (hc : i.command = .server command) (ho : i.open? vars s.files = .ok (c, session))
    (hp : command.pointer? = some (system, route))
    (ht : session.target system = .ok (org, .name name)) :
    Gate c s.network.isListening org name route (i.run vars s) := by
  rcases i.run_cases vars s with hn | ⟨command', c', session', program, hc', ho', hp', he⟩
  · exact .of_turns_eq_nil hn
  · -- The run that was found is the one of the command and the session that are given.
    obtain rfl : command = command' := Command.server.inj (hc.symm.trans hc')
    obtain ⟨rfl, rfl⟩ : c = c' ∧ session = session' :=
      Prod.mk.inj (Except.ok.inj (ho.symm.trans ho'))
    -- The command has the target of its options, whatever its route.
    have target_eq {org' : String} {reference : SystemReference}
        (ht' : session.target system = .ok (org', reference)) :
        org' = org ∧ reference = .name name :=
      Prod.mk.inj (Except.ok.inj (ht'.symm.trans ht))
    by_cases hr : route = .listing
    · subst hr
      obtain ⟨org', reference, names, ht', hb⟩ := command.begins_of_listing hp' hp
      obtain ⟨rfl, rfl⟩ := target_eq ht'
      exact gate_of_membership hb he
    · obtain ⟨org', reference, ht', hb⟩ := command.goes hp' hp
      obtain ⟨rfl, rfl⟩ := target_eq ht'
      exact gate_of_begins hb hr he

/-- Two systems of a name stop a run. -/
theorem gate_run_of_namesakes :
    ∃ turns, ((unregistering "box" none).run []
      (.replying ["[\x7b\"uuid\":\"a\"\x7d,\x7b\"uuid\":\"b\"\x7d]"])).Rejects turns
        (.ambiguousSystem (.name "box") "ACME" 2) := by
  have listed : ((unregistering "box" none).run []
      (.replying ["[\x7b\"uuid\":\"a\"\x7d,\x7b\"uuid\":\"b\"\x7d]"])).turns.map
        (fun t => t.listed?.map List.length) = [some 2] := by decide +kernel
  obtain ⟨t, after, ht, hl, -⟩ := List.map_eq_cons_iff.mp listed
  obtain ⟨found, hf, h2⟩ := Option.map_eq_some_iff.mp hl
  have opens : ((unregistering "box" none).open? [] (Files.ofEntries [] [])).toBool = true := by
    decide +kernel
  cases ho : (unregistering "box" none).open? [] (Files.ofEntries [] []) with
  | error failure =>
    rw [ho] at opens
    cases opens
  | ok opened =>
    obtain ⟨c, session⟩ := opened
    have gate := gate_run (i := unregistering "box" none)
      (s := .replying ["[\x7b\"uuid\":\"a\"\x7d,\x7b\"uuid\":\"b\"\x7d]"]) rfl ho rfl rfl
    exact ⟨_, h2 ▸ gate.several (.organisation rfl) ht hf (Nat.le_of_eq h2.symm)⟩

end Invocation

end HostConsole
