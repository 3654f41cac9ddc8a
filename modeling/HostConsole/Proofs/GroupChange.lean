import HostConsole.Proofs.Finding
import HostConsole.Proofs.OrderlyRuns

/-!
# Changes of groups

A system joins or leaves the groups that the listing of the named groups tells of. Every name has
to be among them, or nothing is changed and the failure says which names are not there.

The other direction is the server's matter. A listing that tells of more groups than were named is
taken as it is, and the system joins or leaves those groups too: the numbers that are sent are those
of the named groups exactly where the listing tells of no other ones.

## How an operation ends

Everything is read off `Membership.Outcome`, which says once how far an operation can come: to no
listing, to a listing without some of the names, or to the change. The two operations differ in
their change only, so there is one program with the change as a parameter.

## Main definitions

* `Turn.groups?`: the groups that a turn was told of
* `Membership.changeOf`, `Membership.alter`: the change of groups and the operation around it
* `Membership.Outcome`: how far an operation comes

## Main results

* `Membership.outcome_alter`: how far every run of an operation comes
* `Membership.touches_alter`: which groups a change names, and what keeps it from being sent
-/

namespace HostConsole

open Program

/-- The groups that the turn was told of. -/
def Turn.groups? (t : Turn) : Option (List SystemGroup) :=
  match t.call with
  | .lookup (.systemGroups org names) => t.delivery.answer? (.lookup (.systemGroups org names))
  | _ => none

theorem Program.require_ok_bind {α β : Type} (result : α) (f : α → Program β) :
    (require (.ok result) >>= f) = f result := rfl

namespace Membership

/-! ## Names and numbers -/

section Numbers

variable {groups : List SystemGroup} {names : List String} {org : String}

/-- The names that no group bears, in the order in which they were given. -/
theorem missingNames_eq_filter (groups : List SystemGroup) (names : List String) :
    missingNames groups names = names.filter fun name => ∀ group ∈ groups, group.name ≠ name := by
  refine List.filter_congr fun name _ => ?_
  rw [Bool.eq_iff_iff]
  simp

theorem missingNames_eq_nil_iff :
    missingNames groups names = [] ↔ ∀ name ∈ names, ∃ group ∈ groups, group.name = name := by
  simp [missingNames_eq_filter, List.filter_eq_nil_iff]

/-- A name that is not there is told, with the others that are not there either. -/
theorem numbersOf_of_missing (missing : missingNames groups names ≠ []) :
    numbersOf groups names org =
      .error (.systemGroupNotFound (String.intercalate ", " (missingNames groups names)) org) := by
  have some_missing : (missingNames groups names).isEmpty = false := by
    simpa [List.isEmpty_iff] using missing
  simp [numbersOf, some_missing]

/-- Where every name is there, all groups of the listing count. -/
theorem numbersOf_of_no_missing (named : names ≠ []) (present : missingNames groups names = []) :
    numbersOf groups names org = .ok (groups.map (·.id)) := by
  have listed : groups.isEmpty = false := by
    -- A name that is there is borne by a group.
    obtain ⟨name, mem⟩ := List.exists_mem_of_ne_nil names named
    obtain ⟨group, mem, -⟩ := missingNames_eq_nil_iff.mp present name mem
    exact List.isEmpty_eq_false_iff_exists_mem.mpr ⟨group, mem⟩
  simp [numbersOf, present, listed]

/-- All numbers of a listing are those of the named groups exactly if it tells of no others. -/
theorem numbers_eq_iff :
    groups.map (·.id) = (groups.filter (·.name ∈ names)).map (·.id) ↔
      ∀ group ∈ groups, group.name ∈ names := by
  constructor
  · intro same group mem
    have length : (groups.filter (·.name ∈ names)).length = groups.length := by
      simpa using (congrArg List.length same).symm
    simpa using List.length_filter_eq_length_iff.mp length group mem
  · intro all
    rw [List.filter_eq_self.mpr fun group mem => by simpa using all group mem]

end Numbers

/-! ## The operation -/

/-- The change by which a system joins groups or leaves them. -/
def changeOf (joins : Bool) (uuid : String) (numbers : List Nat) : Change :=
  if joins then .addSystemGroups uuid numbers else .removeSystemGroups uuid numbers

/-- A system joins groups or leaves them. -/
def alter (joins : Bool) (org : String) (reference : SystemReference) (names : List String) :
    Program Machine :=
  if joins then join org reference names else leave org reference names

theorem changeOf_body (joins : Bool) (uuid : String) (numbers : List Nat) :
    (changeOf joins uuid numbers).request.body = some (Change.groupsBody numbers) := by
  cases joins <;> rfl

/-- Behind the system and the groups comes the change, and behind the change no other call. -/
theorem alter_eq (joins : Bool) (org : String) (reference : SystemReference)
    (names : List String) :
    ∃ rest : (only : Machine) → (numbers : List Nat) →
        (changeOf joins only.uuid numbers).Answer → Program Machine,
      (∀ only numbers answer, (rest only numbers answer).Follows none) ∧
      alter joins org reference names = Resolution.listedSystem org reference >>= fun only =>
        ask (.lookup (.systemGroups org names)) none fun groups =>
          require (numbersOf groups names org) >>= fun numbers =>
            ask (.change (changeOf joins only.uuid numbers)) none (rest only numbers) := by
  cases joins with
  | true =>
    exact ⟨fun only _ record => require (confirmed record only), fun _ _ _ => follows_require _, rfl⟩
  | false =>
    exact ⟨fun only _ record => require (confirmed record only), fun _ _ _ => follows_require _, rfl⟩

/-! ## How far an operation comes -/

/-- The turn looks the groups up and is told of some. -/
structure IsListing (org : String) (names : List String) (groups : List SystemGroup) (t : Turn) :
    Prop where
  asked : t.call = .lookup (.systemGroups org names)
  told : t.groups? = some groups

/-- The turns are lookups that tell of no groups. -/
def AreBefore (turns : List Turn) : Prop :=
  ∀ t ∈ turns, t.IsLookup ∧ t.groups? = none

theorem AreBefore.nil : AreBefore [] := by
  intro t ht
  cases ht

theorem AreBefore.append {turns more : List Turn} (h : AreBefore turns) (hm : AreBefore more) :
    AreBefore (turns ++ more) := by
  intro t ht
  rcases List.mem_append.mp ht with ht | ht
  · exact h t ht
  · exact hm t ht

/-- How far an operation comes: its turns and its result. -/
inductive Outcome (c : Connection) (joins : Bool) (org : String) (names : List String) :
    List Turn → Except Failure Machine → Prop where
  /-- It ends before it is told of any groups. -/
  | unlisted {turns : List Turn} {failure : Failure} (before : AreBefore turns) :
      Outcome c joins org names turns (.error failure)
  /-- It ends for the names that are not there. -/
  | missing {turns : List Turn} {t : Turn} {groups : List SystemGroup} (before : AreBefore turns)
      (listing : IsListing org names groups t) (missing : missingNames groups names ≠ []) :
      Outcome c joins org names (turns ++ [t])
        (.error (.systemGroupNotFound (String.intercalate ", " (missingNames groups names)) org))
  /-- It is kept from the change, which cannot go out. -/
  | kept {turns : List Turn} {t : Turn} {groups : List SystemGroup} {fault : RemoteFault}
      (before : AreBefore turns) (listing : IsListing org names groups t)
      (present : missingNames groups names = []) :
      Outcome c joins org names (turns ++ [t]) (.error (.remote fault))
  /-- It comes to the change, and makes no turn behind it. -/
  | changed {turns : List Turn} {t : Turn} {groups : List SystemGroup} {uuid : String}
      {d : Delivery} {result : Except Failure Machine}
      (before : AreBefore turns) (listing : IsListing org names groups t)
      (present : missingNames groups names = []) :
      Outcome c joins org names
        (turns ++ [t, c.turn (.change (changeOf joins uuid (groups.map (·.id)))) d]) result

section Outcomes

variable {c : Connection} {joins : Bool} {org : String} {names : List String}

/-- An operation that comes to nothing else before comes as far with the turns before. -/
theorem Outcome.append {looks turns : List Turn} {result : Except Failure Machine}
    (hl : AreBefore looks) (h : Outcome c joins org names turns result) :
    Outcome c joins org names (looks ++ turns) result := by
  cases h with
  | unlisted before => exact .unlisted (hl.append before)
  | missing before listing missing =>
    rw [← List.append_assoc]
    exact .missing (hl.append before) listing missing
  | kept before listing present =>
    rw [← List.append_assoc]
    exact .kept (hl.append before) listing present
  | changed before listing present =>
    rw [← List.append_assoc]
    exact .changed (hl.append before) listing present

/-- The system is looked up in turns that tell of no groups. -/
theorem areBefore_listedSystem (reference : SystemReference) (s : Surroundings) :
    AreBefore ((Resolution.listedSystem org reference).run c s).turns := by
  let call : Call := .lookup (.systemsOfOrganisation org
    { name := reference.name?, uuid := reference.uuid? })
  have look (d : Delivery) : AreBefore [c.turn call d] := by
    intro t ht
    obtain rfl := List.mem_singleton.mp ht
    exact ⟨⟨_, rfl⟩, rfl⟩
  have one_call : Resolution.listedSystem org reference =
      ask call (some (.systemNotFound reference org)) fun found =>
        require (Resolution.exactlyOne found reference org) := rfl
  rw [one_call]
  rcases run_ask_cases (c := c) call _ (fun found =>
      require (Resolution.exactlyOne found reference org)) s with
    ⟨fault, -, he⟩ | ⟨d, s', -, ⟨fault, -, he⟩ | ⟨found, -, he⟩⟩
  · rw [he]
    exact .nil
  · rw [he]
    exact look d
  · -- What is made of the answer takes no turn.
    have settled : ((require (Resolution.exactlyOne found reference org)).run c s').turns = [] := by
      cases Resolution.exactlyOne found reference org <;> rfl
    rw [he, Ending.turns_after, settled]
    exact look d

/-- **How far every run of an operation comes.** -/
theorem outcome_alter (joins : Bool) (org : String) (reference : SystemReference)
    {names : List String} (named : names ≠ []) (c : Connection) (s : Surroundings) :
    Outcome c joins org names ((alter joins org reference names).run c s).turns
      ((alter joins org reference names).run c s).result := by
  obtain ⟨rest, follows, he⟩ := alter_eq joins org reference names
  rw [he, run_bind]
  have before := @areBefore_listedSystem c org reference s
  cases hr : ((Resolution.listedSystem org reference).run c s).result with
  | error failure =>
    rw [Ending.andThen_of_error hr]
    exact .unlisted before
  | ok only =>
    rw [Ending.andThen_of_ok hr, Ending.turns_after, Ending.result_after]
    refine .append before ?_
    -- Behind the system: kept from the groups, told of none, or told of some.
    rcases run_ask_cases (c := c) (.lookup (.systemGroups org names)) none _ _ with
      ⟨fault, -, he⟩ | ⟨d, s', -, ⟨fault, hd, he⟩ | ⟨groups, hd, he⟩⟩
    · rw [he]
      exact .unlisted .nil
    · rw [he]
      refine .unlisted fun t ht => ?_
      obtain rfl := List.mem_singleton.mp ht
      exact ⟨⟨_, rfl⟩, Connection.answer?_of_receive_error hd⟩
    · rw [he, Ending.turns_after, Ending.result_after]
      have listing : IsListing org names groups (c.turn (.lookup (.systemGroups org names)) d) :=
        ⟨rfl, Connection.receive_eq_ok_iff.mp hd⟩
      by_cases present : missingNames groups names = []
      · rw [numbersOf_of_no_missing named present]
        rcases run_last_change (c := c) (rest only (groups.map (·.id))) (follows _ _) s' with
          ⟨fault, turns, result⟩ | ⟨d', turns⟩
        · rw [require_ok_bind, turns, result]
          exact @Outcome.kept c joins org names [] _ _ _ .nil listing present
        · rw [require_ok_bind, turns]
          exact @Outcome.changed c joins org names [] _ _ only.uuid d' _ .nil listing present
      · rw [numbersOf_of_missing present]
        exact @Outcome.missing c joins org names [] _ _ .nil listing present

end Outcomes

/-! ## Which groups are touched -/

namespace Outcome

variable {c : Connection} {joins : Bool} {org : String} {names : List String} {turns : List Turn}
  {result : Except Failure Machine}

/-- A change is behind a listing with all names, and has the numbers of its groups. -/
theorem exists_listing (h : Outcome c joins org names turns result) {t : Turn} (ht : t ∈ turns)
    {ch : Change} (hc : t.call = .change ch) :
    ∃ uuid, ∃ listing ∈ turns, ∃ groups, IsListing org names groups listing ∧
      missingNames groups names = [] ∧ ch = changeOf joins uuid (groups.map (·.id)) := by
  have not_lookup : ¬ t.IsLookup := by
    rintro ⟨l, hl⟩
    rw [hl] at hc
    cases hc
  have not_listing {groups : List SystemGroup} : ¬ IsListing org names groups t :=
    fun listing => not_lookup ⟨_, listing.asked⟩
  cases h with
  | unlisted before => exact absurd (before t ht).1 not_lookup
  | missing before listing missing | kept before listing present =>
    rcases List.mem_append.mp ht with ht | ht
    · exact absurd (before t ht).1 not_lookup
    · obtain rfl := List.mem_singleton.mp ht
      exact absurd listing not_listing
  | @changed looks listed groups uuid d _ before listing present =>
    refine ⟨uuid, listed, by simp, groups, listing, present, ?_⟩
    rcases List.mem_append.mp ht with ht | ht
    · exact absurd (before t ht).1 not_lookup
    · rcases List.mem_cons.mp ht with rfl | ht
      · exact absurd listing not_listing
      · obtain rfl := List.mem_singleton.mp ht
        exact (Call.change.inj hc).symm

/-- What comes of a listing: a failure for the names that are not there, or the change. -/
theorem of_listing (h : Outcome c joins org names turns result) {t : Turn} (ht : t ∈ turns)
    {groups : List SystemGroup} (told : t.groups? = some groups) :
    (missingNames groups names ≠ [] →
      result = .error (.systemGroupNotFound
          (String.intercalate ", " (missingNames groups names)) org) ∧ ∀ t ∈ turns, t.IsLookup) ∧
    (missingNames groups names = [] →
      (∃ t ∈ turns, ∃ uuid, t.call = .change (changeOf joins uuid (groups.map (·.id)))) ∨
        ∃ fault, result = .error (.remote fault)) := by
  have not_before {looks : List Turn} (before : AreBefore looks) : t ∉ looks := by
    intro ht
    rw [(before t ht).2] at told
    cases told
  -- There is one listing, so its groups are those of the outcome.
  cases h with
  | unlisted before => exact absurd ht (not_before before)
  | @missing looks listed groups' before listing missing =>
    obtain rfl := List.mem_singleton.mp ((List.mem_append.mp ht).resolve_left (not_before before))
    obtain rfl : groups' = groups := Option.some.inj (listing.told.symm.trans told)
    refine ⟨fun _ => ⟨rfl, fun t ht => ?_⟩, fun present => absurd present missing⟩
    rcases List.mem_append.mp ht with ht | ht
    · exact (before t ht).1
    · obtain rfl := List.mem_singleton.mp ht
      exact ⟨_, listing.asked⟩
  | @kept looks listed groups' fault before listing present =>
    obtain rfl := List.mem_singleton.mp ((List.mem_append.mp ht).resolve_left (not_before before))
    obtain rfl : groups' = groups := Option.some.inj (listing.told.symm.trans told)
    exact ⟨fun missing => absurd present missing, fun _ => .inr ⟨fault, rfl⟩⟩
  | @changed looks listed groups' uuid d _ before listing present =>
    rcases List.mem_cons.mp ((List.mem_append.mp ht).resolve_left (not_before before)) with
      rfl | ht
    · obtain rfl : groups' = groups := Option.some.inj (listing.told.symm.trans told)
      exact ⟨fun missing => absurd present missing, fun _ => .inl
        ⟨c.turn (.change (changeOf joins uuid (groups'.map (·.id)))) d, by simp, uuid, rfl⟩⟩
    · -- The change tells of no groups.
      obtain rfl := List.mem_singleton.mp ht
      cases told

end Outcome

/-- **Which groups a change names, and what keeps it from being sent.** A change has the numbers of
all groups in the listing, where every name is; these are the numbers of the named groups exactly
if the listing tells of no others. Names that are not there end the operation without a change. -/
theorem touches_alter (joins : Bool) (org : String) (reference : SystemReference)
    {names : List String} (named : names ≠ []) (c : Connection) (s : Surroundings) :
    let ending := (alter joins org reference names).run c s
    (∀ t ∈ ending.turns, ∀ ch, t.call = .change ch →
      ∃ uuid, ∃ listing ∈ ending.turns, ∃ groups,
        listing.call = .lookup (.systemGroups org names) ∧ listing.groups? = some groups ∧
        ch = changeOf joins uuid (groups.map (·.id)) ∧
        t.request = c.wire ch.request ∧
        ch.request.body = some (Change.groupsBody (groups.map (·.id))) ∧
        (∀ name ∈ names, ∃ group ∈ groups, group.name = name) ∧
        (groups.map (·.id) = (groups.filter (·.name ∈ names)).map (·.id) ↔
          ∀ group ∈ groups, group.name ∈ names)) ∧
    (∀ listing ∈ ending.turns, ∀ groups, listing.groups? = some groups →
      let absent := names.filter fun name => ∀ group ∈ groups, group.name ≠ name
      (absent ≠ [] →
        ending.result = .error (.systemGroupNotFound (String.intercalate ", " absent) org) ∧
          ∀ t ∈ ending.turns, t.IsLookup) ∧
      (absent = [] →
        (∃ t ∈ ending.turns, ∃ uuid, t.call = .change (changeOf joins uuid (groups.map (·.id)))) ∨
          ∃ fault, ending.result = .error (.remote fault))) := by
  intro ending
  have outcome : Outcome c joins org names ending.turns ending.result :=
    outcome_alter joins org reference named c s
  refine ⟨fun t ht ch hc => ?_, fun listing hl groups told => ?_⟩
  · obtain ⟨uuid, listing, hl, groups, ⟨asked, told⟩, present, rfl⟩ := outcome.exists_listing ht hc
    have sent : t = c.turn t.call t.delivery :=
      (alter joins org reference names).turn_of_mem_turns_run ht
    refine ⟨uuid, listing, hl, groups, asked, told, rfl, ?_, changeOf_body joins uuid _,
      missingNames_eq_nil_iff.mp present, numbers_eq_iff⟩
    rw [sent, hc]
    rfl
  · rw [← missingNames_eq_filter]
    exact outcome.of_listing hl told

/-- Two names that are not there are told in the order in which they were given, and the third one
is left as it is. -/
theorem touches_alter_of_missing_names :
    let c : Connection := { base := { scheme := "http", host := some (.name "h")
                                      route := .segments ["api"] } }
    let s := Surroundings.replying ["[\x7b\"uuid\":\"u\",\"name\":\"web01\"\x7d]",
      "[\x7b\"id\":10,\"name\":\"web\"\x7d]"]
    let names := ["disk", "web", "cache"]
    let ending := (alter true "ACME" (.uuid "u") names).run c s
    names ≠ [] ∧ ending.result = .error (.systemGroupNotFound "disk, cache" "ACME") ∧
      ∀ t ∈ ending.turns, t.IsLookup := by
  intro c s names ending
  have named : names ≠ [] := List.cons_ne_nil _ _
  have told : ending.turns.map Turn.groups? = [none, some [{ id := 10, name := "web" }]] := by
    decide +kernel
  obtain ⟨listing, hl, groups⟩ := List.mem_map.mp
    (told ▸ List.mem_cons_of_mem _ (List.mem_singleton_self _))
  obtain ⟨result, looked⟩ := ((touches_alter true "ACME" (.uuid "u") named c s).2
    listing hl _ groups).1 (by decide)
  exact ⟨named, result, looked⟩

end Membership

/-! ## Single runs -/

/-- The command by which a system joins groups, at the server of a fixed address. -/
def Invocation.joining (uuid : String) (names : List String) : Invocation :=
  { globals := { url := some "http://h/api" }
    command := .server (.addSystemGroups { org := some "ACME", uuid := some uuid } names) }

/-- A listing of more groups than were named: the system joins them all. -/
theorem Invocation.joins_unnamed_group :
    ((joining "u" ["web"]).run [] (.replying
        ["[\x7b\"uuid\":\"u\",\"name\":\"web01\"\x7d]",
          "[\x7b\"id\":10,\"name\":\"web\"\x7d,\x7b\"id\":11,\"name\":\"db\"\x7d]",
          "\x7b\"uuid\":\"u\",\"name\":\"web01\"\x7d"])).turns.map
        (fun t => (t.call, t.groups?)) =
      [(.lookup (.systemsOfOrganisation "ACME" { uuid := some "u" }), none),
        (.lookup (.systemGroups "ACME" ["web"]),
          some [{ id := 10, name := "web" }, { id := 11, name := "db" }]),
        (.change (.addSystemGroups "u" [10, 11]), none)] := by
  decide +kernel

end HostConsole
