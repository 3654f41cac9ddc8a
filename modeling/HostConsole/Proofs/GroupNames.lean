import HostConsole.Proofs.GroupChange
import HostConsole.Proofs.PackageRequest
import HostConsole.Proofs.RequestTarget

/-!
# Names of groups

The names of groups go through two comma lists. The texts of an option are cut at commas and
cleaned, and then the names are joined with commas again, into the value of a pair of a query. The
server, which reads the pair and cuts its value at commas, gets the clean names: each of them in its
place, and no other one.

Two things carry this. No name has a comma, since it is part of a piece between commas, and there is
a name at all, since a list that comes down to nothing is refused before anything is asked. That the
query is read back is a matter of `Connection.pairs?_wire`, which holds whatever the segments of the
path are. The server's address can have a query of its own, and its pairs come first.

## Main definitions

* `Program.Asks`: the calls that a program can come to are allowed ones
* `ServerCommand.membership`: the command by which a system joins groups or leaves them

## Main results

* `Text.commaPieces_intercalate`: names without commas are read back from a comma list
* `Connection.pairs?_wire`: the pairs of the query of a request
* `Program.Asks.allowed_of_mem`: what a run asks for is allowed
* `Invocation.asks_for_named_groups`: which groups a command line asks for
-/

namespace HostConsole

open CommandLine Program Url

/-! ## Names in a comma list -/

namespace Text

variable {names texts : List String} {name : String}

/-- Trimming takes characters away and brings none. -/
theorem mem_of_mem_trim {c : Char} {cs : List Char} (h : c ∈ trim cs) : c ∈ cs := by
  obtain ⟨front, back, split, -, -⟩ := (trim_eq_iff.mp rfl : IsInner isBlank cs (trim cs)).within
  rw [split]
  exact List.mem_append_left _ (List.mem_append_right _ h)

theorem comma_notMem_of_mem_commaPieces {text piece : String} (h : piece ∈ commaPieces text) :
    ',' ∉ piece.toList := by
  obtain ⟨cs, mem, rfl⟩ := List.mem_map.mp h
  intro comma
  rw [String.toList_ofList] at comma
  have parts := Address.eq_false_of_mem_splitOnP mem ',' comma
  simp at parts

/-- No clean name of a comma list has a comma. -/
theorem comma_notMem_of_mem_cleanList (h : name ∈ cleanList (texts.flatMap commaPieces)) :
    ',' ∉ name.toList := by
  obtain ⟨piece, mem, rfl⟩ := List.mem_map.mp (List.mem_filter.mp h).1
  obtain ⟨text, -, mem⟩ := List.mem_flatMap.mp mem
  intro comma
  rw [trimmed, String.toList_ofList] at comma
  exact comma_notMem_of_mem_commaPieces mem (mem_of_mem_trim comma)

/-- Names without commas are read back from a comma list. -/
theorem commaPieces_intercalate (some_names : names ≠ [])
    (apart : ∀ name ∈ names, ',' ∉ name.toList) :
    commaPieces (String.intercalate "," names) = names := by
  have pieces : (List.intercalate [','] (names.map String.toList)).splitOn ',' =
      names.map String.toList := by
    refine List.splitOn_intercalate ',' (fun piece mem => ?_) (by simpa using some_names)
    obtain ⟨name, given, rfl⟩ := List.mem_map.mp mem
    exact apart name given
  -- The pieces are cut as characters, and become texts again.
  rw [commaPieces, String.toList_intercalate]
  change ((List.intercalate [','] (names.map String.toList)).splitOn ',').map String.ofList = names
  rw [pieces, List.map_map]
  exact (List.map_congr_left fun name _ => String.ofList_toList).trans (List.map_id _)

end Text

/-! ## The query of a request -/

/-- The pairs on both sides of an ampersand. -/
theorem Url.decodePairs_append_cons (own more : List Char) :
    decodePairs (own ++ '&' :: more) = decodePairs own ++ decodePairs more := by
  simp only [decodePairs, List.splitOn_eq_splitOnP]
  rw [List.splitOnP_append_cons _ _ (by simp), List.filter_append, List.map_append]

namespace Address

variable {a : Address} {special : Bool} {names : List String}

/-- Further pairs come behind those of the query. -/
theorem exists_query_withPairs {pairs : Query} (some_pairs : pairs ≠ []) :
    ∃ query, (a.withPairs pairs).query = some query ∧
      decodePairs query.toList = decodePairs (a.query.getD "").toList ++ pairs := by
  have written : encodePairs pairs ≠ [] := fun empty => some_pairs (encodePairs_eq_nil_iff.mp empty)
  unfold withPairs
  -- An ampersand parts the pairs where there are own ones.
  rcases own : (a.query.getD "").toList with _ | ⟨c, cs⟩
  · refine ⟨.ofList (encodePairs pairs), by simp [written], ?_⟩
    rw [String.toList_ofList, decodePairs_encodePairs]
    rfl
  · refine ⟨.ofList (c :: cs ++ '&' :: encodePairs pairs), by simp [written], ?_⟩
    rw [String.toList_ofList, decodePairs_append_cons, decodePairs_encodePairs]

/-- A further segment neither parts nor ends a path, whatever its name. -/
theorem isWritten_addSegment (h : ∀ name ∈ names, IsWritten name) (further : String) :
    ∀ name ∈ addSegment special names further, IsWritten name := by
  have longer {names : List String} {last : String} (h : ∀ name ∈ names, IsWritten name)
      (hl : IsWritten last) : ∀ name ∈ names ++ [last], IsWritten name := by
    intro name mem
    rcases List.mem_append.mp mem with mem | mem
    · exact h name mem
    · exact List.mem_singleton.mp mem ▸ hl
  unfold addSegment
  split
  · exact h
  · have own : ∀ name ∈ (if names = [""] then [] else names), IsWritten name := by
      split
      · exact List.forall_mem_nil _
      · exact h
    dsimp only
    -- two dots, one dot, and any other segment
    split
    · exact longer (fun name mem => own name (List.dropLast_subset _ mem)) isWritten_empty
    · split
      · exact longer own isWritten_empty
      · exact longer own (isWritten_encodeSegment special _)

theorem isWritten_foldl_addSegment (further : List String) (h : ∀ name ∈ names, IsWritten name) :
    ∀ name ∈ further.foldl (addSegment special) names, IsWritten name := by
  induction further generalizing names with
  | nil => exact h
  | cons first further ih => exact ih (isWritten_addSegment h first)

/-- The path of an address with further segments has no question mark, if the address has none. -/
theorem mark_notMem_path_endpoint (rooted : a.isRootless = false)
    (h : ∀ name ∈ a.segments, IsWritten name) (further : List String) :
    '?' ∉ (a.endpoint further).path.toList := by
  obtain ⟨own, route⟩ := exists_segments rooted
  rw [segments, route] at h
  have kept : ∀ name ∈ withoutEmptyEnd own, IsWritten name := by
    intro name mem
    unfold withoutEmptyEnd at mem
    split at mem
    · exact h name (List.dropLast_subset _ mem)
    · exact h name mem
  simp only [endpoint, route, path, String.toList_ofList]
  intro mark
  rcases mem_joinSegments mark with slash | ⟨name, mem, inside⟩
  · exact absurd slash (by decide)
  · exact (isWritten_foldl_addSegment further kept name mem).2 inside

end Address

/-- **The pairs of the query of a request** are those of the server's address and then those that
are asked with, whatever the segments of the request are. -/
theorem Connection.pairs?_wire {c : Connection} {settings : Settings}
    (opened : ofSettings settings = .ok c) {r : Request} {pairs : Query} (asks : r.query = some pairs)
    (some_pairs : pairs ≠ []) :
    Target.pairs? (c.wire r).target =
      some (decodePairs (c.base.query.getD "").toList ++ pairs) := by
  obtain ⟨route, -, own_query⟩ := c.plainBase_eq
  have written : ∀ name ∈ c.plainBase.segments, Address.IsWritten name := by
    rw [Address.segments, route]
    exact Address.isWritten_of_read (exists_read_of_ofSettings opened)
  have rooted : c.plainBase.isRootless = false :=
    (isRootless_plainBase c).trans (isRootless_of_ofSettings opened)
  have unmarked : '?' ∉ (c.address r).path.toList := by
    rw [path_address]
    exact Address.mark_notMem_path_endpoint rooted written r.segments
  obtain ⟨query, has, decoded⟩ :=
    @Address.exists_query_withPairs (c.plainBase.endpoint r.segments) pairs some_pairs
  have address : c.address r = (c.plainBase.endpoint r.segments).withPairs pairs := by
    rw [Connection.address, asks]
  -- The path ends at the first question mark, and the query is all that stands behind it.
  have target : (c.wire r).target.toList = (c.address r).path.toList ++ '?' :: query.toList := by
    change (String.ofList ((c.address r).path.toList ++ (c.address r).querySuffix)).toList = _
    rw [String.toList_ofList, Address.querySuffix, address, has]
  have behind := (Target.takeWhile_append_querySuffix unmarked (c.address r)).2
  rw [Address.querySuffix, address, has] at behind
  rw [Target.pairs?, target, address, behind, List.tail?_cons, Option.map_some, decoded,
    Address.endpoint_nil_query, own_query]

/-! ## The calls of a program -/

namespace Program

variable {α β : Type} {allowed : Call → Prop} {c : Connection}

/-- Every call that the program can come to is allowed, the looks at a task included. -/
def Asks (allowed : Call → Prop) : Program α → Prop
  | .done _ | .fail _ => True
  | .tell _ next | .save _ _ _ next => next.Asks allowed
  | .ask call _ next => allowed call ∧ ∀ answer, (next answer).Asks allowed
  | .await task _ next => allowed (.lookup (.task task)) ∧ ∀ ended, (next ended).Asks allowed

theorem Asks.bind {p : Program α} {f : α → Program β} (h : p.Asks allowed)
    (hf : ∀ result, (f result).Asks allowed) : (p >>= f).Asks allowed := by
  change (p.bind f).Asks allowed
  induction p with
  | done result => exact hf result
  | fail failure => trivial
  | tell message next ih => exact ih h
  | ask call missing next ih => exact ⟨h.1, fun answer => ih answer (h.2 answer)⟩
  | await task polling next ih => exact ⟨h.1, fun ended => ih ended (h.2 ended)⟩
  | save path bytes unwritable next ih => exact ih h

/-- A program that follows no task asks for nothing. -/
theorem Follows.asks {p : Program α} (h : p.Follows none) : p.Asks allowed := by
  induction p with
  | done result => trivial
  | fail failure => trivial
  | tell message next ih => exact ih h
  | ask call missing next ih => exact h.elim
  | await task polling next ih => cases h.1
  | save path bytes unwritable next ih => exact ih h

theorem asks_require (x : Except Failure α) : (require x).Asks allowed := by
  cases x <;> trivial

/-- **What a run asks for is allowed.** -/
theorem Asks.allowed_of_mem {p : Program α} (h : p.Asks allowed) {s : Surroundings} {t : Turn}
    (ht : t ∈ (p.run c s).turns) : allowed t.call := by
  induction p generalizing s with
  | done result => cases ht
  | fail failure => cases ht
  | tell message next ih => exact ih h (by simpa [run] using ht)
  | ask call missing next ih =>
    rcases run_ask_cases (c := c) call missing next s with
      ⟨fault, -, he⟩ | ⟨d, s', -, ⟨fault, -, he⟩ | ⟨answer, -, he⟩⟩
    · rw [he] at ht
      cases ht
    · rw [he] at ht
      obtain rfl := List.mem_singleton.mp ht
      exact h.1
    · rw [he, Ending.turns_after] at ht
      rcases List.mem_cons.mp ht with rfl | ht
      · exact h.1
      · exact ih answer (h.2 answer) ht
  | await task polling next ih =>
    have watched {ds : List Delivery} {clock : Nat}
        (hw : t ∈ turnsOf (c.watch task polling s.clock ds clock).events) : allowed t.call := by
      rw [c.watch_turn task polling s.clock hw]
      exact h.1
    simp only [run] at ht
    split at ht
    · cases ht
    · split at ht
      · rw [Ending.turns_after] at ht
        rcases List.mem_append.mp ht with ht | ht
        · exact watched ht
        · exact ih _ (h.2 _) ht
      · exact watched ht
  | save path bytes unwritable next ih =>
    simp only [run] at ht
    split at ht
    · exact ih h ht
    · cases ht

end Program

/-! ## The groups of a command -/

/-- The call looks groups up by these names, if it looks any up. -/
def Call.NamesGroups (names : List String) (call : Call) : Prop :=
  ∀ org asked, call = .lookup (.systemGroups org asked) → asked = names

/-- An operation on groups looks up the groups that were named. -/
theorem Membership.asks_alter (joins : Bool) (org : String) (reference : SystemReference)
    (names : List String) : (alter joins org reference names).Asks (Call.NamesGroups names) := by
  obtain ⟨rest, follows, he⟩ := alter_eq joins org reference names
  rw [he]
  -- The system is looked for first, then the groups. Neither the change nor what follows it is a
  -- lookup of groups.
  have listed : (Resolution.listedSystem org reference).Asks (Call.NamesGroups names) := by
    refine Asks.bind ⟨fun _ _ same => ?_, fun _ => trivial⟩ fun found => asks_require _
    cases same
  refine listed.bind fun only => ⟨fun _ _ same => ?_, fun groups => ?_⟩
  · cases same
    rfl
  · refine (asks_require _).bind fun numbers => ⟨fun _ _ same => ?_, fun answer => ?_⟩
    · cases same
    · exact (follows only numbers answer).asks

namespace Session

variable {s : Session} {system : Selector} {groups : List String} {joins : Bool}

/-- The command is an operation on the clean names, of which there is one. -/
theorem asks_systemGroups {program : Program ExitCode}
    (h : s.systemGroups system groups joins = .ok program) :
    Text.cleanList groups ≠ [] ∧ program.Asks (Call.NamesGroups (Text.cleanList groups)) := by
  obtain ⟨org, reference, -, h⟩ := exists_target h
  obtain ⟨names, hn, h⟩ := exists_of_bind_eq_ok h
  unfold groupNames at hn
  dsimp only at hn
  split at hn
  · cases hn
  · next some_names =>
    cases hn
    refine ⟨by simpa [List.isEmpty_iff] using some_names, ?_⟩
    have told (updated : Machine) (text : String) :
        (succeed (text ++ updated.name ++ " ]")).Asks (Call.NamesGroups (Text.cleanList groups)) :=
      trivial
    cases joins with
    | true =>
      cases h
      exact (Membership.asks_alter true org reference _).bind fun updated => told updated _
    | false =>
      cases h
      exact (Membership.asks_alter false org reference _).bind fun updated => told updated _

/-- Names that come down to nothing are refused once the organisation is known. -/
theorem systemGroups_of_no_names (order : system.PointsAtOne)
    (no_names : Text.cleanList groups = []) :
    s.systemGroups system groups joins =
      s.organisation system.org >>= fun _ => .error (.usage .groupNamesMissing) := by
  obtain ⟨reference, hr⟩ := exists_reference order
  unfold systemGroups target
  cases s.organisation system.org with
  | error missing => rfl
  | ok org =>
    simp only [hr, groupNames, no_names]
    rfl

end Session

/-- The command by which a system joins groups or leaves them. -/
def ServerCommand.membership (joins : Bool) (system : Selector) (groups : List String) :
    ServerCommand :=
  if joins then .addSystemGroups system groups else .removeSystemGroups system groups

/-- The name of that command. -/
def ServerCommand.membershipName (joins : Bool) : String :=
  if joins then "add_system_groups" else "remove_system_groups"

namespace CommandLine

/-- The command about groups has the names that are found. -/
theorem eq_of_serverCommand?_membership {name : String} {found : Found} {joins : Bool}
    {system : Selector} {groups : List String}
    (h : serverCommand? name found = some (.membership joins system groups)) :
    name = ServerCommand.membershipName joins ∧ groups = found.values "system_groups" := by
  unfold serverCommand? at h
  dsimp only at h
  cases joins with
  | true =>
    split at h <;> cases h
    exact ⟨rfl, rfl⟩
  | false =>
    split at h <;> cases h
    exact ⟨rfl, rfl⟩

/-- The names of groups are cut at commas. -/
theorem splits_of_groups : ∀ joins, ∀ rule ∈ console.command? (ServerCommand.membershipName joins),
    ∀ option ∈ rule.level.rules, option.identity = "system_groups" → option.splits = true := by
  decide +kernel

end CommandLine

namespace Invocation

variable {i : Invocation} {joins : Bool} {system : Selector} {groups : List String}
  {vars : Variables} {s : Surroundings}

/-- The names of the command are the texts of its option, cut at commas. -/
theorem exists_gives_membership {arguments : List String} (h : ofArguments arguments = .ok i)
    (hc : i.command = .server (.membership joins system groups)) :
    ∃ occurrences, Gives arguments (ServerCommand.membershipName joins) occurrences ∧
      groups = (textsOf "system_groups" occurrences).flatMap commaPieces := by
  obtain ⟨name, occurrences, gives, found⟩ := exists_gives h hc
  obtain ⟨rfl, rfl⟩ := eq_of_serverCommand?_membership found
  refine ⟨occurrences, gives, values_foundOf_of_splits fun met mem same => ?_⟩
  obtain ⟨rule, named, known⟩ := gives.exists_rule
  exact splits_of_groups joins rule named met.rule (known met mem) same

theorem prepare_membership (session : Session) :
    (ServerCommand.membership joins system groups).prepare session =
      session.systemGroups system groups joins := by
  cases joins <;> rfl

/-- A lookup of groups asks for the clean names, of which there is one. -/
theorem asked_of_mem_run (hc : i.command = .server (.membership joins system groups)) {t : Turn}
    (ht : t ∈ (i.run vars s).turns) {org : String} {asked : List String}
    (hl : t.call = .lookup (.systemGroups org asked)) :
    ∃ c session settings, i.open? vars s.files = .ok (c, session) ∧
      Connection.ofSettings settings = .ok c ∧ t.request = c.wire t.call.request ∧
      asked = Text.cleanList groups ∧ Text.cleanList groups ≠ [] := by
  obtain ⟨c, session, program, ho, hp, he⟩ := exists_program_of_mem hc ht
  rw [he] at ht
  rw [prepare_membership] at hp
  obtain ⟨some_names, asks⟩ := Session.asks_systemGroups hp
  -- The connection of an open session is one that settings were good for.
  have opened : ∃ settings, Connection.ofSettings settings = .ok c := by
    obtain ⟨settings, -, ho⟩ := exists_of_bind_eq_ok ho
    obtain ⟨c', opened, ho⟩ := exists_of_bind_eq_ok ho
    cases ho
    exact ⟨settings, opened⟩
  obtain ⟨settings, opened⟩ := opened
  exact ⟨c, session, settings, ho, opened, congrArg Turn.request (program.turn_of_mem_turns_run ht),
    asks.allowed_of_mem ht org asked hl, some_names⟩

/-- **Which groups a command line asks for.** The names are the texts of the option, cut at commas
and cleaned, and these are read back from the value of the one pair that the lookup adds to the
query of the server's address. Where no name is left nothing is sent, and the run ends with that
once its settings are good and an organisation is known. -/
theorem asks_for_named_groups {arguments : List String} (h : ofArguments arguments = .ok i)
    (hc : i.command = .server (.membership joins system groups)) :
    ∃ occurrences, Gives arguments (ServerCommand.membershipName joins) occurrences ∧
      let names := Text.cleanList ((textsOf "system_groups" occurrences).flatMap commaPieces)
      (∀ vars s, ∀ t ∈ (i.run vars s).turns, ∀ org asked,
        t.call = .lookup (.systemGroups org asked) →
        asked = names ∧
        ∃ c session joined, i.open? vars s.files = .ok (c, session) ∧
          Target.pairs? t.request.target =
            some (decodePairs (c.base.query.getD "").toList ++ [("name", joined)]) ∧
          commaPieces joined = names) ∧
      (names = [] → ∀ vars s,
        (i.run vars s).turns = [] ∧
        (∀ earlier, i.open? vars s.files = .error earlier →
          (i.run vars s).result = .error earlier) ∧
        ∀ c session, i.open? vars s.files = .ok (c, session) →
          (i.run vars s).exitCode = .usage ∧
          (system.org.or session.org = none →
            (i.run vars s).result = .error (.usage .organisationMissing)) ∧
          (system.org.or session.org ≠ none →
            (i.run vars s).result = .error (.usage .groupNamesMissing))) := by
  obtain ⟨occurrences, gives, rfl⟩ := exists_gives_membership h hc
  refine ⟨occurrences, gives, fun vars s t ht org asked hl => ?_, fun no_names vars s => ?_⟩
  · obtain ⟨c, session, settings, ho, opened, sent, rfl, some_names⟩ := asked_of_mem_run hc ht hl
    refine ⟨rfl, c, session, _, ho, ?_, Text.commaPieces_intercalate some_names
      fun name mem => Text.comma_notMem_of_mem_cleanList mem⟩
    rw [sent, hl]
    exact Connection.pairs?_wire opened rfl (List.cons_ne_nil _ _)
  · have order : system.PointsAtOne := by
      have in_order := isInOrder_command h hc
      cases joins <;> exact in_order
    refine run_of_refused hc rfl fun session => ?_
    rw [prepare_membership]
    exact Session.systemGroups_of_no_names order no_names

/-- Names of two occurrences are read back in their order, one of them twice, with the signs that
queries are made of and behind the query of the server's address. -/
theorem asks_for_named_groups_of_signs :
    let arguments := ["--url", "http://h/api?t=1", "add_system_groups", "-o", "ACME", "--uuid", "u",
      "--system_groups", " a&b , é,,a&b", "--system_groups", "100%"]
    let i : Invocation :=
      { globals := { url := some "http://h/api?t=1" }
        command := .server (.membership true { org := some "ACME", uuid := some "u" }
          [" a&b ", " é", "", "a&b", "100%"]) }
    let s := Surroundings.replying ["[\x7b\"uuid\":\"u\",\"name\":\"web01\"\x7d]", "[]"]
    let names := ["a&b", "é", "a&b", "100%"]
    ofArguments arguments = .ok i ∧
      ∃ t ∈ (i.run [] s).turns, t.call = .lookup (.systemGroups "ACME" names) ∧
        ∃ joined, Target.pairs? t.request.target = some [("t", "1"), ("name", joined)] ∧
          commaPieces joined = names := by
  intro arguments i s names
  have accepted : ofArguments arguments = .ok i := by decide +kernel
  obtain ⟨occurrences, -, asks, -⟩ := asks_for_named_groups accepted rfl
  have calls : (i.run [] s).turns.map Turn.call =
      [.lookup (.systemsOfOrganisation "ACME" { uuid := some "u" }),
        .lookup (.systemGroups "ACME" names)] := by decide +kernel
  obtain ⟨t, ht, hl⟩ := List.mem_map.mp
    (calls ▸ List.mem_cons_of_mem _ (List.mem_singleton_self _))
  obtain ⟨named, c, session, joined, opened, pairs, pieces⟩ := asks [] s t ht "ACME" names hl
  have query : c.base.query = some "t=1" := by
    have known : (i.open? [] s.files).toOption.map (fun opened => opened.1.base.query) =
        some (some "t=1") := by decide +kernel
    rw [opened] at known
    exact Option.some.inj known
  have own : decodePairs "t=1".toList = [("t", "1")] := by decide +kernel
  rw [query, Option.getD_some, own] at pairs
  exact ⟨accepted, t, ht, hl, joined, pairs, pieces.trans named.symm⟩

/-- Names that come down to nothing are not what a run with a bad address ends with, and an address
with a name in its own query has it asked for too. -/
theorem asks_for_named_groups_of_addresses :
    let arguments (url groups : String) :=
      ["--url", url, "add_system_groups", "-o", "ACME", "--uuid", "u", "--system_groups", groups]
    let i (url : String) (groups : List String) : Invocation :=
      { globals := { url := some url }
        command := .server (.membership true { org := some "ACME", uuid := some "u" } groups) }
    let s := Surroundings.replying ["[\x7b\"uuid\":\"u\",\"name\":\"web01\"\x7d]", "[]"]
    ofArguments (arguments "x" ",") = .ok (i "x" ["", ""]) ∧
      Text.cleanList ["", ""] = [] ∧
      ((i "x" ["", ""]).run [] s).exitCode = .configuration ∧
      ofArguments (arguments "http://h/api?name=x" "web") = .ok (i "http://h/api?name=x" ["web"]) ∧
      ((i "http://h/api?name=x" ["web"]).run [] s).turns.map
          (fun t => (t.call, Target.pairs? t.request.target)) =
        [(.lookup (.systemsOfOrganisation "ACME" { uuid := some "u" }),
            some [("name", "x"), ("uuid", "u")]),
          (.lookup (.systemGroups "ACME" ["web"]), some [("name", "x"), ("name", "web")])] := by
  decide +kernel

end Invocation

end HostConsole
