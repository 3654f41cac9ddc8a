import HostConsole.Proofs.Finding
import HostConsole.Proofs.OrderlyRuns

/-!
# What a change is about

The system of a change is the one that the server's replies led to from the reference of the
command. The replies are taken at their word: nothing compares the record that the server sends
with the name or the uuid that it was asked for.

So there are two statements. Without any trust in the server, the system of a change is the one
that `Route.Leads` reads off the turns. Where the server tells of what it was asked for, which is
`Turn.Echoes`, this is the system that the user meant.

## Main definitions

* `Route.Leads`: the turns that lead from a reference to the uuid of a system
* `Turn.Echoes`: the server tells of the system that it was asked for

## Main results

* `Route.leads_of_find`: what a route finds is what its turns lead to
* `Invocation.target_of_change`: the system of every change
-/

namespace HostConsole

open Program

namespace Turn

/-- A system that a listing may tell of. -/
def Fits (query : SystemQuery) (machine : Machine) : Prop :=
  (∀ uuid, query.uuid = some uuid → machine.uuid = uuid) ∧
    ∀ name, query.name = some name → machine.name = name

/-- The server tells of the system that it was asked for. -/
structure Echoes (t : Turn) : Prop where
  machine : ∀ {uuid machine}, t.call = .lookup (.system uuid) → t.machine? = some machine →
    machine.uuid = uuid
  organisation : ∀ {org query found}, t.call = .lookup (.systemsOfOrganisation org query) →
    t.listed? = some found → ∀ machine ∈ found, Fits query machine
  environment : ∀ {environment query found},
    t.call = .lookup (.systemsOfEnvironment environment query) → t.listed? = some found →
    ∀ machine ∈ found, Fits query machine

end Turn

/-! ## The turns that lead to a system -/

namespace Route

variable {α : Type} {c : Connection} {s : Surroundings} {org name : String} {route : Route}

/-- The turns list the only system of a name. -/
inductive Singles (org name : String) (route : Route) : List Turn → Machine → Prop where
  | mk {before : List Turn} {t : Turn} {l : Lookup} {only : Machine}
      (lists : route.Lists org name before l) (asked : t.call = .lookup l)
      (told : t.listed? = some [only]) : Singles org name route (before ++ [t]) only

/-- The turns that lead from a reference to the uuid of a system. -/
inductive Leads (org : String) : Route → SystemReference → List Turn → String → Prop where
  /-- A uuid that need not be looked up is taken as it is. -/
  | given {uuid : String} : Leads org direct (.uuid uuid) [] uuid
  /-- The full record at a uuid. -/
  | fetched {environment : Option String} {uuid : String} {t : Turn} {machine : Machine}
      (asked : t.call = .lookup (.system uuid)) (told : t.machine? = some machine) :
      Leads org (record environment) (.uuid uuid) [t] machine.uuid
  /-- The only record of a uuid in the listing of the organisation. -/
  | listed {uuid : String} {t : Turn} {only : Machine}
      (asked : t.call = .lookup (.systemsOfOrganisation org { uuid := some uuid }))
      (told : t.listed? = some [only]) : Leads org listing (.uuid uuid) [t] only.uuid
  /-- The only record of a name in the listing of the organisation. -/
  | named {name : String} {turns : List Turn} {only : Machine}
      (found : listing.Singles org name turns only) :
      Leads org listing (.name name) turns only.uuid
  /-- The full record at the uuid of the only record of a name. -/
  | resolved {route : Route} {name : String} {turns : List Turn} {t : Turn} {only machine : Machine}
      (other : route ≠ listing) (found : route.Singles org name turns only)
      (asked : t.call = .lookup (.system only.uuid)) (told : t.machine? = some machine) :
      Leads org route (.name name) (turns ++ [t]) machine.uuid

variable {turns : List Turn}

theorem turn_of_environment {place : String} {first : Environment}
    (h : (Resolution.environment org (some place)).Gives c s turns first) :
    ∃ asked others, turns = [asked] ∧ asked.call = .lookup (.environments org (some place)) ∧
      asked.environments? = some (first :: others) := by
  obtain ⟨before, after, found, s', hl, hm, rfl⟩ := h.of_bind
  obtain ⟨d, rfl, hd⟩ := hl.of_look
  rcases found with _ | ⟨only, others⟩
  · cases hm.2
  · obtain ⟨rfl, hr⟩ := hm
    cases hr
    exact ⟨_, others, rfl, rfl, hd⟩

/-- The turns of a listing by a name. -/
theorem lists_of_candidates {found : List Machine}
    (h : (route.candidates org name).Gives c s turns found) :
    ∃ before t l, turns = before ++ [t] ∧ route.Lists org name before l ∧ t.call = .lookup l ∧
      t.listed? = some found := by
  unfold candidates at h
  cases hp : route.place? with
  | none =>
    rw [hp] at h
    obtain ⟨d, rfl, hd⟩ := Gives.of_look h
    exact ⟨[], _, _, rfl, .organisation hp, rfl, hd⟩
  | some place =>
    rw [hp] at h
    obtain ⟨before, after, first, s', he, hl, rfl⟩ := h.of_bind
    obtain ⟨asked, others, rfl, asks, told⟩ := turn_of_environment he
    obtain ⟨d, rfl, hd⟩ := Gives.of_look hl
    exact ⟨[asked], _, _, rfl, .environment hp asks told, rfl, hd⟩

theorem exactlyOne_eq_ok {found : List Machine} {reference : SystemReference} {only : Machine}
    (h : Resolution.exactlyOne found reference org = .ok only) : found = [only] := by
  rcases found with _ | ⟨first, _ | ⟨second, others⟩⟩
  · cases h
  · cases h
    rfl
  · cases h

/-- **What a route finds is what its turns lead to.** -/
theorem leads_of_find {reference : SystemReference} {found : route.Found}
    (h : (route.find org reference).Gives c s turns found) :
    route.Leads org reference turns (route.uuidOf found) := by
  cases reference with
  | uuid uuid =>
    cases route with
    | record environment =>
      obtain ⟨d, rfl, hd⟩ := Gives.of_look h
      exact .fetched rfl hd
    | direct =>
      -- no turn at all
      obtain ⟨rfl, hr⟩ := h
      cases hr
      exact .given
    | listing =>
      obtain ⟨before, after, listed, s', hl, hr, rfl⟩ := Gives.of_bind h
      obtain ⟨d, rfl, hd⟩ := Gives.of_look hl
      obtain ⟨ho, rfl⟩ := Gives.of_require hr
      obtain rfl := exactlyOne_eq_ok ho
      exact .listed rfl hd
  | name name =>
    -- The listing comes first on every route, and only what is behind it differs.
    rw [find_name] at h
    obtain ⟨listing, after, listed, s₁, hl, hr, rfl⟩ := h.of_bind
    obtain ⟨before, t, l, rfl, lists, asked, told⟩ := lists_of_candidates hl
    obtain ⟨none, settling, only, s₂, hq, hs, rfl⟩ := hr.of_bind
    obtain ⟨ho, rfl⟩ := hq.of_require
    obtain rfl := exactlyOne_eq_ok ho
    have singles : route.Singles org name (before ++ [t]) only := .mk lists asked told
    cases route with
    | record environment =>
      obtain ⟨d, rfl, hd⟩ := Gives.of_look hs
      exact .resolved (by simp) singles rfl hd
    | direct =>
      -- The full record is looked up, though only its uuid is used.
      obtain ⟨looking, ending, machine, s₃, hm, he, rfl⟩ := Gives.of_bind hs
      obtain ⟨d, rfl, hd⟩ := Gives.of_look hm
      obtain ⟨rfl, he⟩ := he
      cases he
      exact .resolved (by simp) singles rfl hd
    | listing =>
      -- The record of the listing is taken as it is.
      obtain ⟨rfl, hs⟩ := hs
      cases hs
      exact (List.append_nil (before ++ [t])).symm ▸ .named singles

theorem Singles.name_eq {turns : List Turn} {only : Machine}
    (h : route.Singles org name turns only) (he : ∀ t ∈ turns, t.Echoes) :
    ∃ t ∈ turns, t.listed? = some [only] ∧ only.name = name := by
  obtain ⟨lists, asked, told⟩ := h
  have echoes := he _ (List.mem_append_right _ (List.mem_singleton_self _))
  refine ⟨_, List.mem_append_right _ (List.mem_singleton_self _), told, ?_⟩
  cases lists with
  | organisation h => exact (echoes.organisation asked told only (by simp)).2 name rfl
  | environment h asks found => exact (echoes.environment asked told only (by simp)).2 name rfl

/-- Where the server tells of what it was asked for, a uuid leads to itself and a name to the only
system that was listed, which bears it. -/
theorem Leads.of_echoes {reference : SystemReference} {turns : List Turn} {uuid : String}
    (h : route.Leads org reference turns uuid) (he : ∀ t ∈ turns, t.Echoes) :
    (∀ given, reference = .uuid given → uuid = given) ∧
    ∀ name, reference = .name name → ∃ t ∈ turns, ∃ only, t.listed? = some [only] ∧
      only.uuid = uuid ∧ only.name = name := by
  cases h with
  | given => exact ⟨fun _ h => SystemReference.uuid.inj h, nofun⟩
  | fetched asked told =>
    have echoes := he _ (List.mem_singleton_self _)
    refine ⟨fun given h => ?_, nofun⟩
    rw [echoes.machine asked told, SystemReference.uuid.inj h]
  | @listed uuid t only asked told =>
    have echoes := he _ (List.mem_singleton_self _)
    refine ⟨fun given h => ?_, nofun⟩
    rw [(echoes.organisation asked told only (by simp)).1 uuid rfl, SystemReference.uuid.inj h]
  | @named name' turns only found =>
    refine ⟨nofun, fun name h => ?_⟩
    obtain ⟨t, ht, told, hn⟩ := found.name_eq he
    exact ⟨t, ht, only, told, rfl, hn.trans (SystemReference.name.inj h)⟩
  | @resolved route name' turns last only machine other found asked told =>
    refine ⟨nofun, fun name h => ?_⟩
    -- The last turn tells of the system whose uuid was listed, and the listing of the name.
    obtain ⟨t, ht, listed, hn⟩ := found.name_eq fun t ht => he t (List.mem_append_left _ ht)
    have echoes := he last (List.mem_append_right _ (List.mem_singleton_self _))
    exact ⟨t, List.mem_append_left _ ht, only, listed, (echoes.machine asked told).symm,
      hn.trans (SystemReference.name.inj h)⟩

end Route

/-! ## The system of a change -/

/-- The system that a change is about stands in its path. -/
theorem Change.segments_of_system? {ch : Change} {uuid : String} (h : ch.system? = some uuid) :
    ∃ more, ch.request.segments = "systems" :: uuid :: more := by
  cases ch <;> cases h <;> exact ⟨_, rfl⟩

/-- A change behind a route is about the system that its turns lead to. -/
theorem Route.Begins.leads {route : Route} {org : String} {reference : SystemReference}
    {p : Program ExitCode} (h : route.Begins org reference p) {c : Connection} {s : Surroundings}
    {t : Turn} (ht : t ∈ (p.run c s).turns) {ch : Change} (hc : t.call = .change ch)
    {uuid : String} (hu : ch.system? = some uuid) :
    ∃ found, found <+: (p.run c s).turns ∧ route.Leads org reference found uuid := by
  obtain ⟨rest, rfl, hr⟩ := h
  -- The change cannot stand among the turns of the route, which are lookups.
  have unchanged : t ∉ ((route.find org reference).run c s).turns := fun hm =>
    ((inquires_find org reference route).phased_run s).allowed_of_mem hm hc
  rw [run_bind] at ht ⊢
  cases hf : ((route.find org reference).run c s).result with
  | error failure =>
    rw [Ending.turns_andThen_of_error hf] at ht
    exact absurd ht unchanged
  | ok found =>
    rw [Ending.turns_andThen_of_ok hf] at ht ⊢
    refine ⟨_, List.prefix_append _ _, ?_⟩
    -- Behind the route every change aims at what was found.
    have aims : ch.AimsAt (route.uuidOf found) :=
      ((hr found).phased_run _).allowed_of_mem ((List.mem_append.mp ht).resolve_left unchanged) hc
    rw [aims uuid hu]
    exact leads_of_find ⟨rfl, hf⟩

namespace Invocation

/-- **The system of a change is the one that the replies led to from the user's reference**,
which is the system that the user meant where the server tells of what it was asked for. -/
theorem target_of_change {i : Invocation} {vars : Variables} {s : Surroundings} {t : Turn}
    (ht : t ∈ (i.run vars s).turns) {ch : Change} (hc : t.call = .change ch) {uuid : String}
    (hu : ch.system? = some uuid) :
    ∃ command c session system route org reference found,
      i.command = .server command ∧ i.open? vars s.files = .ok (c, session) ∧
      command.pointer? = some (system, route) ∧
      session.target system = .ok (org, reference) ∧
      (∃ more, t.request = c.wire ch.request ∧
        ch.request.segments = "systems" :: uuid :: more) ∧
      found <+: (i.run vars s).turns ∧ route.Leads org reference found uuid ∧
      ((∀ t ∈ found, t.Echoes) → (∀ given, reference = .uuid given → uuid = given) ∧
        ∀ name, reference = .name name → ∃ t ∈ found, ∃ only, t.listed? = some [only] ∧
          only.uuid = uuid ∧ only.name = name) := by
  rcases i.run_cases vars s with hn | ⟨command, c, session, program, hi, ho, hp, he⟩
  · rw [hn] at ht
    cases ht
  · rw [he] at ht ⊢
    obtain ⟨more, hs⟩ := Change.segments_of_system? hu
    have sent : t.request = c.wire ch.request := by
      rw [program.turn_of_mem_turns_run ht, hc]
      rfl
    cases hr : command.pointer? with
    | none =>
      -- Such a command changes no system that is there, and this change is about one.
      have none_eq := ((command.changesOnce_of_pointer?_eq_none hp hr).phased_run s).allowed_of_mem
        ht hc
      rw [hu] at none_eq
      cases none_eq
    | some pointer =>
      obtain ⟨system, route⟩ := pointer
      obtain ⟨org, reference, htarget, hb⟩ := command.goes hp hr
      obtain ⟨found, hf, hl⟩ := hb.leads ht hc hu
      exact ⟨command, c, session, system, route, org, reference, found, hi, ho, hr, htarget,
        ⟨more, sent, hs⟩, hf, hl, hl.of_echoes⟩

/-- A record of another system leads to that system. -/
theorem target_of_change_of_other_record :
    ∃ route org reference found,
      found <+: ((unregistering none "U").run [] (.replying ["\x7b\"uuid\":\"V\"\x7d", ""])).turns ∧
      Route.Leads org route reference found "V" := by
  have calls : ((unregistering none "U").run []
      (.replying ["\x7b\"uuid\":\"V\"\x7d", ""])).turns.map Turn.call =
        [.lookup (.system "U"), .change (.unregister "V")] := by decide +kernel
  obtain ⟨t, ht, hc⟩ := List.mem_map.mp (calls ▸ List.mem_cons_of_mem _ (List.mem_singleton_self _))
  obtain ⟨_, _, _, _, route, org, reference, found, -, -, -, -, -, hf, hl, -⟩ :=
    target_of_change ht hc rfl
  exact ⟨route, org, reference, found, hf, hl⟩

/-- The system of a change need not be the one that the user gave: a full record of another
system leads to that one, by a uuid as by a name, and the name in a listing is not looked at. -/
theorem changes_system_of_other_record :
    ((unregistering none "U").run [] (.replying ["\x7b\"uuid\":\"V\"\x7d", ""])).turns.map
        Turn.call = [.lookup (.system "U"), .change (.unregister "V")] ∧
    ((unregistering "box" none).run [] (.replying
        ["[\x7b\"uuid\":\"a\",\"name\":\"other\"\x7d]", "\x7b\"uuid\":\"b\"\x7d", ""])).turns.map
        (fun t => (t.call, t.listed?.map (·.map fun only => (only.uuid, only.name)))) =
      [(.lookup (.systemsOfOrganisation "ACME" { name := some "box" }), some [("a", "other")]),
        (.lookup (.system "a"), none), (.change (.unregister "b"), none)] := by
  decide +kernel

end Invocation

end HostConsole
