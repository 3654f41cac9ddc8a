import HostConsole.Console

/-!
# Conversations

The turns of a run are its conversation with the server. Whatever the program, each turn carries
the request of its call and what arrived for it, the arrivals come in their order, and no turn
follows one that failed.

## How a run is taken apart

A run is only ever opened here. `Connection.exchange_cases` and `Connection.watch_cons` say once
what a single exchange and a single look at a task can do, and the three facts above follow from
them by induction on the program. What stands behind other modules is `Program.run_bind`, by which
the run of a program is that of its parts, and `Program.run_ask`, by which a program that asks is
kept from it, goes on with an answer, or ends behind what arrived.

## Main definitions

* `Delivery.answer?`, `Turn.Succeeds`: the answer in what arrived for a call
* `arrivals`: what arrives for the first requests
* `IsFailFast`: turns of which only the last one may have failed
* `Ending.andThen`: an ending that another run follows
* `Program.Gives`: the turns and the result of a run that comes to one

## Main results

* `Connection.exchange_cases`: what one exchange can do
* `Program.run_bind`: the run of a program that goes on with another one
* `Program.run_ask_cases`, `Program.run_ask`: the run of a program that asks
* `Program.map_delivery_turns_run`: the turns of a run take the arrivals in their order
* `Program.isFailFast_run`: no turn follows one that failed
* `Program.isListening_run`: the far end stays as it is
-/

namespace HostConsole

/-- The answer to a call in what arrived for it, if there is one. -/
def Delivery.answer? (call : Call) : Delivery → Option call.Answer
  | .nothing => none
  | .reply r => (call.answer r).toOption

/-- What arrived answers the call. -/
def Turn.Succeeds (t : Turn) : Prop :=
  (t.delivery.answer? t.call).isSome

theorem Reply.isSuccess_of_refusal? {r : Reply} (h : r.refusal? = none) : isSuccess r.status := by
  unfold refusal? at h
  split at h
  · assumption
  · split at h <;> cases h

theorem Reply.refusal?_of_status_eq {r : Reply} (h : r.status = notFoundCode) :
    r.refusal? = some (.notFound r.explanation) := by
  unfold refusal?
  rw [if_neg (by rw [h]; decide), if_pos h]

/-- The server said that there is nothing. -/
def Delivery.IsNotFound (d : Delivery) : Prop :=
  ∃ r, d = .reply r ∧ r.status = notFoundCode

/-- What arrives for the first `n` requests: nothing, once the deliveries are used up. -/
def arrivals : List Delivery → Nat → List Delivery
  | _, 0 => []
  | [], n + 1 => .nothing :: arrivals [] n
  | delivery :: rest, n + 1 => delivery :: arrivals rest n

@[simp] theorem arrivals_zero (ds : List Delivery) : arrivals ds 0 = [] := by
  cases ds <;> rfl

theorem arrivals_add (ds : List Delivery) (m n : Nat) :
    arrivals ds (m + n) = arrivals ds m ++ arrivals (ds.drop m) n := by
  -- Induction on the number of the first requests, for whatever is still to arrive.
  induction m generalizing ds with
  | zero => simp
  | succ m ih =>
    rw [Nat.succ_add]
    cases ds with
    | nil => simpa [arrivals] using ih []
    | cons d ds => simpa [arrivals] using ih ds

/-! ## Single exchanges -/

namespace Connection

variable {c : Connection} {call : Call}

/-- An answer is received exactly if it stands in what arrived. -/
theorem receive_eq_ok_iff {d : Delivery} {answer : call.Answer} :
    c.receive call d = .ok answer ↔ d.answer? call = some answer := by
  cases d with
  | nothing => simp [receive, Delivery.answer?]
  | reply r =>
    change (call.answer r).mapError _ = .ok answer ↔ (call.answer r).toOption = some answer
    cases call.answer r with
    | ok a =>
      constructor
      · rintro ⟨⟩
        rfl
      · rintro ⟨⟩
        rfl
    | error cause =>
      constructor
      · rintro ⟨⟩
      · rintro ⟨⟩

theorem answer?_of_receive_error {d : Delivery} {fault : RemoteFault}
    (h : c.receive call d = .error fault) : d.answer? call = none := by
  cases ha : d.answer? call with
  | none => rfl
  | some answer => cases h.symm.trans (receive_eq_ok_iff.mpr ha)

theorem answer?_of_isNotFound {d : Delivery} (h : d.IsNotFound) : d.answer? call = none := by
  obtain ⟨r, rfl, hr⟩ := h
  rw [Delivery.answer?, Call.answer_of_refusal (Reply.refusal?_of_status_eq hr)]
  rfl

theorem isNotFound_of_receive {d : Delivery} (h : d.IsNotFound) {fault : RemoteFault}
    (hf : c.receive call d = .error fault) : fault.isNotFound = true := by
  obtain ⟨r, rfl, hr⟩ := h
  rw [receive, Call.answer_of_refusal (Reply.refusal?_of_status_eq hr)] at hf
  cases hf
  rfl

/-- A fault of a request that cannot go out ends a program with itself. -/
theorem failure_of_obstacle? {isListening : Bool} {r : Request} {fault : RemoteFault}
    (h : c.obstacle? isListening r = some fault) (missing : Option Failure) :
    fault.failure missing = .remote fault := by
  have silent : fault.isNotFound = false := by
    unfold obstacle? at h
    -- The address does not do or nobody listens; neither says that something is not there.
    split at h
    · cases h
      rfl
    · split at h
      · cases h
        rfl
      · cases h
  cases missing with
  | none => rfl
  | some failure => simp [RemoteFault.failure, silent]

/-- An exchange cannot begin, or it is a turn that takes what arrives next. -/
theorem exchange_cases (n : Network) :
    (∃ fault, c.obstacle? n.isListening call.request = some fault ∧
      c.exchange call n = { result := .error fault, turns := [], network := n }) ∨
    ∃ d n', arrivals n.deliveries 1 = [d] ∧ n'.deliveries = n.deliveries.drop 1 ∧
      n'.isListening = n.isListening ∧ c.exchange call n =
        { result := c.receive call d, turns := [c.turn call d], network := n' } := by
  unfold exchange
  cases c.obstacle? n.isListening call.request with
  | some fault => exact .inl ⟨fault, rfl, rfl⟩
  | none =>
    refine .inr ?_
    cases hd : n.deliveries with
    | nil =>
      -- Nothing is left to arrive, but the request went out: there is a turn all the same.
      exact ⟨.nothing, n, rfl, hd, rfl, rfl⟩
    | cons d rest =>
      exact ⟨d, { n with deliveries := rest }, by simp [arrivals], rfl, rfl, rfl⟩

/-- Every turn of an exchange carries the request of the call. -/
theorem exchange_turn {n : Network} {t : Turn} (ht : t ∈ (c.exchange call n).turns) :
    t = c.turn call t.delivery := by
  rcases @exchange_cases c call n with ⟨fault, -, he⟩ | ⟨d, n', -, -, -, he⟩
  · rw [he] at ht
    cases ht
  · rw [he] at ht
    rw [List.mem_singleton.mp ht]
    rfl

/-- An exchange takes what arrives next, if it gets as far. -/
theorem exchange_deliveries (n : Network) :
    (c.exchange call n).turns.map Turn.delivery =
        arrivals n.deliveries (c.exchange call n).turns.length ∧
      (c.exchange call n).network.deliveries =
        n.deliveries.drop (c.exchange call n).turns.length := by
  rcases @exchange_cases c call n with ⟨fault, -, he⟩ | ⟨d, n', hd, hr, -, he⟩
  · simp [he]
  · rw [he]
    exact ⟨hd.symm, hr⟩

/-- The turn of an exchange with an answer succeeds. -/
theorem exchange_succeeds {n : Network} {answer : call.Answer}
    (h : (c.exchange call n).result = .ok answer) :
    ∃ d, (c.exchange call n).turns = [c.turn call d] ∧ d.answer? call = some answer := by
  rcases @exchange_cases c call n with ⟨fault, -, he⟩ | ⟨d, n', -, -, -, he⟩
  · rw [he] at h
    cases h
  · rw [he] at h ⊢
    exact ⟨d, rfl, receive_eq_ok_iff.mp h⟩

theorem exchange_turns_length_le (n : Network) : (c.exchange call n).turns.length ≤ 1 := by
  rcases @exchange_cases c call n with ⟨fault, -, he⟩ | ⟨d, n', -, -, -, he⟩
  · simp [he]
  · simp [he]

end Connection

/-! ## No turn follows one that failed

The invariant speaks of all turns but the last one, because a run may end with a turn that
failed, and of the last one where the run went well, because only then another run may follow. -/

/-- Every turn but the last one succeeded, and the last one too if all went well. -/
def IsFailFast (turns : List Turn) (wentWell : Prop) : Prop :=
  (∀ t ∈ turns.dropLast, t.Succeeds) ∧ (wentWell → ∀ t ∈ turns, t.Succeeds)

theorem IsFailFast.of_length_le {turns : List Turn} {wentWell : Prop} (hl : turns.length ≤ 1)
    (h : wentWell → ∀ t ∈ turns, t.Succeeds) : IsFailFast turns wentWell := by
  refine ⟨fun t ht => ?_, h⟩
  have hd : turns.dropLast = [] := List.eq_nil_of_length_eq_zero (by simp; omega)
  rw [hd] at ht
  cases ht

theorem IsFailFast.append {turns more : List Turn} {wentWell : Prop}
    (h : ∀ t ∈ turns, t.Succeeds) (hm : IsFailFast more wentWell) :
    IsFailFast (turns ++ more) wentWell := by
  refine ⟨fun t ht => ?_, fun hw t ht => ?_⟩
  · rw [List.dropLast_append] at ht
    split at ht
    · -- Nothing comes behind, and what is left out is one of the turns that succeeded.
      exact h t (List.dropLast_subset _ ht)
    · rcases List.mem_append.mp ht with ht | ht
      · exact h t ht
      · exact hm.1 t ht
  · rcases List.mem_append.mp ht with ht | ht
    · exact h t ht
    · exact hm.2 hw t ht

/-! ## Watching a task -/

namespace Connection

variable (c : Connection) (task : String) (polling : Polling) (started : Nat)

/-- One look at a task ends the watch, or it saw a task and the watch goes on. -/
theorem watch_cons (d : Delivery) (ds : List Delivery) (clock : Nat) :
    ∃ events, turnsOf events = [c.turn (.lookup (.task task)) d] ∧
      ((∃ result, c.watch task polling started (d :: ds) clock =
          { result, events, left := ds, clock } ∧
          ∀ ended : Task, result = .ok ended → d.answer? (.lookup (.task task)) = some ended) ∨
        ∃ seen : Task, d.answer? (.lookup (.task task)) = some seen ∧
          c.watch task polling started (d :: ds) clock =
            (c.watch task polling started ds (clock + polling.interval)).after events) := by
  cases hd : c.receive (.lookup (.task task)) d with
  | error fault =>
    refine ⟨[.sent (c.turn (.lookup (.task task)) d)], rfl, .inl ⟨.error (.remote fault), ?_, ?_⟩⟩
    · rw [watch]
      simp only [hd]
    · intro ended he
      cases he
  | ok seen =>
    have ha := receive_eq_ok_iff.mp hd
    rw [watch]
    simp only [hd]
    split
    · -- the task has ended
      exact ⟨_, rfl, .inl ⟨_, rfl, fun ended he => Except.ok.inj he ▸ ha⟩⟩
    · split
      · -- the time is over
        exact ⟨_, rfl, .inl ⟨_, rfl, fun ended he => by cases he⟩⟩
      · -- the next look, behind a sleep that makes no turn
        exact ⟨_, rfl, .inr ⟨seen, ha, rfl⟩⟩

/-- Watching a task makes turns of its own call only. -/
theorem watch_turn {ds : List Delivery} {clock : Nat} {t : Turn}
    (ht : t ∈ turnsOf (c.watch task polling started ds clock).events) :
    t = c.turn (.lookup (.task task)) t.delivery := by
  induction ds generalizing clock with
  | nil =>
    -- The one look that nothing arrives for.
    obtain rfl : t = _ := by simpa [watch] using ht
    rfl
  | cons d ds ih =>
    rcases c.watch_cons task polling started d ds clock with
      ⟨events, he, ⟨result, hw, -⟩ | ⟨seen, -, hw⟩⟩
    · rw [hw] at ht
      obtain rfl : t = _ := List.mem_singleton.mp (he ▸ ht)
      rfl
    · rw [hw, Watch.after, turnsOf_append, he] at ht
      rcases List.mem_cons.mp ht with rfl | ht
      · rfl
      · exact ih ht

/-- Watching a task takes the arrivals in their order. -/
theorem watch_deliveries (ds : List Delivery) (clock : Nat) :
    (turnsOf (c.watch task polling started ds clock).events).map Turn.delivery =
        arrivals ds (turnsOf (c.watch task polling started ds clock).events).length ∧
      (c.watch task polling started ds clock).left =
        ds.drop (turnsOf (c.watch task polling started ds clock).events).length := by
  induction ds generalizing clock with
  | nil => simp [watch, arrivals, turn]
  | cons d ds ih =>
    rcases c.watch_cons task polling started d ds clock with
      ⟨events, he, ⟨result, hw, -⟩ | ⟨seen, -, hw⟩⟩
    · rw [hw]
      simp [he, arrivals, turn]
    · obtain ⟨hd, hl⟩ := ih (clock + polling.interval)
      rw [hw]
      simp [Watch.after, he, arrivals, turn, hd, hl]

/-- A task is looked at again only behind an answer. -/
theorem isFailFast_watch (ds : List Delivery) (clock : Nat) :
    IsFailFast (turnsOf (c.watch task polling started ds clock).events)
      (∃ ended, (c.watch task polling started ds clock).result = .ok ended) := by
  have answered {d : Delivery} {seen : Task} (h : d.answer? (.lookup (.task task)) = some seen) :
      ∀ t ∈ [c.turn (.lookup (.task task)) d], t.Succeeds := by
    intro t ht
    obtain rfl := List.mem_singleton.mp ht
    exact Option.isSome_iff_exists.mpr ⟨seen, h⟩
  -- The clock moves with every look, so the induction is on what arrives, for any clock.
  induction ds generalizing clock with
  | nil => exact .of_length_le (by simp [watch]) (by simp [watch])
  | cons d ds ih =>
    rcases c.watch_cons task polling started d ds clock with
      ⟨events, he, ⟨result, hw, ha⟩ | ⟨seen, ha, hw⟩⟩
    · rw [hw, he]
      exact .of_length_le (by simp) fun ⟨ended, h⟩ => answered (ha ended h)
    · rw [hw, Watch.after, turnsOf_append, he]
      exact .append (answered ha) (ih _)

end Connection

/-! ## Runs of programs -/

namespace Ending

variable {α β : Type}

/-- The ending that another run follows, if this one has a result. -/
def andThen (e : Ending α) (next : α → Surroundings → Ending β) : Ending β :=
  match e.result with
  | .ok result => (next result e.surroundings).after e.events
  | .error failure =>
    { result := .error failure, events := e.events, surroundings := e.surroundings }

theorem andThen_after (e : Ending α) (events : List Event)
    (next : α → Surroundings → Ending β) :
    (e.after events).andThen next = (e.andThen next).after events := by
  unfold andThen
  rw [result_after]
  cases e.result with
  | ok result => exact (after_after _ _ _).symm
  | error failure => rfl

theorem andThen_of_ok {e : Ending α} {next : α → Surroundings → Ending β} {result : α}
    (h : e.result = .ok result) :
    e.andThen next = (next result e.surroundings).after e.events := by
  simp only [andThen, h]

theorem andThen_of_error {e : Ending α} {next : α → Surroundings → Ending β} {failure : Failure}
    (h : e.result = .error failure) :
    e.andThen next =
      { result := .error failure, events := e.events, surroundings := e.surroundings } := by
  simp only [andThen, h]

/-- The turns of an ending that another run follows. -/
theorem turns_andThen_of_ok {e : Ending α} {next : α → Surroundings → Ending β} {result : α}
    (h : e.result = .ok result) :
    (e.andThen next).turns = e.turns ++ (next result e.surroundings).turns := by
  rw [andThen_of_ok h, turns_after]
  rfl

theorem turns_andThen_of_error {e : Ending α} {next : α → Surroundings → Ending β}
    {failure : Failure} (h : e.result = .error failure) : (e.andThen next).turns = e.turns := by
  rw [andThen_of_error h]
  rfl

end Ending

namespace Program

variable {α β : Type} {c : Connection}

/-- **Runs compose**: a program that goes on with another one runs as the one and then the
other. -/
theorem run_bind (p : Program α) (f : α → Program β) (s : Surroundings) :
    (p >>= f).run c s = (p.run c s).andThen fun result s => (f result).run c s := by
  change (p.bind f).run c s = _
  -- Induction on the program that comes first. A step that succeeds puts its events before both
  -- sides; one that fails ends both of them, and `f` is never come to.
  induction p generalizing s with
  | done result => rfl
  | fail failure => rfl
  | tell message next ih =>
    simp only [Program.bind, run]
    rw [ih, Ending.andThen_after]
  | ask call missing next ih =>
    simp only [Program.bind, run]
    cases h : (c.exchange call s.network).result with
    | ok answer =>
      simp only
      rw [ih, Ending.andThen_after]
    | error fault => rfl
  | await task polling next ih =>
    simp only [Program.bind, run]
    cases c.obstacle? s.network.isListening (Lookup.task task).request with
    | some fault => rfl
    | none =>
      simp only
      cases (c.watch task polling s.clock s.network.deliveries s.clock).result with
      | ok ended =>
        simp only
        rw [ih, Ending.andThen_after]
      | error failure => rfl
  | save path bytes unwritable next ih =>
    simp only [Program.bind, run]
    cases s.files.write path bytes with
    | ok files => exact ih _
    | error fault => rfl

/-- A program that asks is kept from it, or its turn comes to a fault or to an answer. -/
theorem run_ask_cases (call : Call) (missing : Option Failure) (next : call.Answer → Program α)
    (s : Surroundings) :
    (∃ fault, c.obstacle? s.network.isListening call.request = some fault ∧
      (ask call missing next).run c s = .ofResult s (.error (.remote fault))) ∨
    ∃ d s', s'.network.isListening = s.network.isListening ∧
      ((∃ fault, c.receive call d = .error fault ∧ (ask call missing next).run c s =
          { result := .error (fault.failure missing), events := [.sent (c.turn call d)]
            surroundings := s' }) ∨
        ∃ answer, c.receive call d = .ok answer ∧
          (ask call missing next).run c s =
            ((next answer).run c s').after [.sent (c.turn call d)]) := by
  simp only [run]
  -- Kept from it by the address or the far end, or one turn whose answer decides.
  rcases @Connection.exchange_cases c call s.network with ⟨fault, ho, he⟩ | ⟨d, n, -, -, hl, he⟩
  · refine .inl ⟨fault, ho, ?_⟩
    simp only [he, Connection.failure_of_obstacle? ho]
    rfl
  · refine .inr ⟨d, { s with network := n }, hl, ?_⟩
    rw [he]
    cases hr : c.receive call d with
    | error fault => exact .inl ⟨fault, rfl, rfl⟩
    | ok answer => exact .inr ⟨answer, rfl, rfl⟩

/-- A program that asks is kept from it, or goes on with an answer, or ends behind what
arrived. -/
theorem run_ask (call : Call) (missing : Option Failure) (next : call.Answer → Program α)
    (s : Surroundings) :
    (∃ fault, c.obstacle? s.network.isListening call.request = some fault ∧
      ((ask call missing next).run c s).turns = [] ∧
      ((ask call missing next).run c s).result = .error (.remote fault)) ∨
    (∃ d answer s', d.answer? call = some answer ∧
      s'.network.isListening = s.network.isListening ∧
      (ask call missing next).run c s = ((next answer).run c s').after [.sent (c.turn call d)]) ∨
    ∃ (d : Delivery) (fault : RemoteFault), d.answer? call = none ∧
      (d.IsNotFound → fault.isNotFound = true) ∧
      ((ask call missing next).run c s).turns = [c.turn call d] ∧
      ((ask call missing next).run c s).result = .error (fault.failure missing) := by
  rcases run_ask_cases (c := c) call missing next s with
    ⟨fault, ho, he⟩ | ⟨d, s', hl, ⟨fault, hr, he⟩ | ⟨answer, hr, he⟩⟩
  · rw [he]
    exact .inl ⟨fault, ho, rfl, rfl⟩
  · rw [he]
    exact .inr (.inr ⟨d, fault, Connection.answer?_of_receive_error hr,
      fun h => Connection.isNotFound_of_receive h hr, rfl, rfl⟩)
  · exact .inr (.inl ⟨d, answer, s', Connection.receive_eq_ok_iff.mp hr, hl, he⟩)

/-- The program makes the turns and has the result. -/
def Gives (p : Program α) (c : Connection) (s : Surroundings) (turns : List Turn) (result : α) :
    Prop :=
  (p.run c s).turns = turns ∧ (p.run c s).result = .ok result

theorem Gives.of_bind {p : Program α} {f : α → Program β} {s : Surroundings} {turns : List Turn}
    {result : β} (h : (p >>= f).Gives c s turns result) :
    ∃ before after found s', p.Gives c s before found ∧ (f found).Gives c s' after result ∧
      turns = before ++ after := by
  obtain ⟨ht, hr⟩ := h
  rw [run_bind] at ht hr
  cases hp : (p.run c s).result with
  | ok found =>
    rw [Ending.turns_andThen_of_ok hp] at ht
    rw [Ending.andThen, hp] at hr
    exact ⟨_, _, found, _, ⟨rfl, hp⟩, ⟨rfl, hr⟩, ht.symm⟩
  | error failure =>
    rw [Ending.andThen, hp] at hr
    cases hr

theorem Gives.of_require {x : Except Failure α} {s : Surroundings} {turns : List Turn} {result : α}
    (h : (require x).Gives c s turns result) : x = .ok result ∧ turns = [] := by
  obtain ⟨rfl, hr⟩ := h
  cases x with
  | ok found =>
    cases hr
    exact ⟨rfl, rfl⟩
  | error failure => cases hr

theorem Gives.of_look {l : Lookup} {missing : Option Failure} {s : Surroundings}
    {turns : List Turn} {answer : l.Answer} (h : (look l missing).Gives c s turns answer) :
    ∃ d, turns = [c.turn (.lookup l) d] ∧ d.answer? (.lookup l) = some answer := by
  obtain ⟨rfl, ha⟩ := h
  rcases run_ask (c := c) (.lookup l) missing done s with
    ⟨fault, -, -, hr⟩ | ⟨d, found, s', hd, -, hr⟩ | ⟨d, fault, -, -, -, hr⟩
  · cases hr.symm.trans ha
  · obtain rfl : found = answer := Except.ok.inj ((congrArg Ending.result hr).symm.trans ha)
    exact ⟨d, congrArg Ending.turns hr, hd⟩
  · cases hr.symm.trans ha

/-- Every turn of a run carries the request of its call. -/
theorem turn_of_mem_turns_run (p : Program α) {s : Surroundings} {t : Turn}
    (ht : t ∈ (p.run c s).turns) : t = c.turn t.call t.delivery := by
  -- Induction on the program: a turn is the step's own, or one of what comes behind it.
  induction p generalizing s with
  | done result => cases ht
  | fail failure => cases ht
  | tell message next ih => exact ih (by simpa [run] using ht)
  | ask call missing next ih =>
    have he : ∀ {n}, t ∈ (c.exchange call n).turns → t = c.turn t.call t.delivery := by
      intro n hn
      have h := Connection.exchange_turn hn
      rw [h]
      rfl
    simp only [run] at ht
    split at ht
    · rw [Ending.turns_after, turnsOf_map_sent] at ht
      rcases List.mem_append.mp ht with ht | ht
      · exact he ht
      · exact ih _ ht
    · exact he (by simpa [Ending.turns] using ht)
  | await task polling next ih =>
    have hw : ∀ {ds clock}, t ∈ turnsOf (c.watch task polling s.clock ds clock).events →
        t = c.turn t.call t.delivery := by
      intro ds clock h
      have h := c.watch_turn task polling s.clock h
      rw [h]
      rfl
    simp only [run] at ht
    split at ht
    · cases ht
    · split at ht
      · rw [Ending.turns_after] at ht
        rcases List.mem_append.mp ht with ht | ht
        · exact hw ht
        · exact ih _ ht
      · exact hw ht
  | save path bytes unwritable next ih =>
    simp only [run] at ht
    split at ht
    · exact ih ht
    · cases ht

/-- The turns of a run take the arrivals in their order, and leave the others. -/
theorem map_delivery_turns_run (p : Program α) (s : Surroundings) :
    (p.run c s).turns.map Turn.delivery =
        arrivals s.network.deliveries (p.run c s).turns.length ∧
      (p.run c s).surroundings.network.deliveries =
        s.network.deliveries.drop (p.run c s).turns.length := by
  -- Both halves go through the induction together: what a step leaves is what the rest takes.
  induction p generalizing s with
  | done result => exact ⟨by simp [run, Ending.turns], rfl⟩
  | fail failure => exact ⟨by simp [run, Ending.turns], rfl⟩
  | tell message next ih => simpa [run] using ih s
  | ask call missing next ih =>
    obtain ⟨hd, hn⟩ := @Connection.exchange_deliveries c call s.network
    simp only [run]
    split
    · next answer _ =>
      obtain ⟨ihd, ihn⟩ := ih answer { s with network := (c.exchange call s.network).network }
      -- The rest of the program begins with what the exchange has left.
      simp only [Ending.turns_after, turnsOf_map_sent, Ending.surroundings_after,
        List.map_append, List.length_append]
      rw [ihd, ihn, hd, hn, arrivals_add, List.drop_drop]
      exact ⟨rfl, rfl⟩
    · simpa [Ending.turns] using ⟨hd, hn⟩
  | await task polling next ih =>
    simp only [run]
    split
    · simp [Ending.turns]
    · obtain ⟨hd, hn⟩ := c.watch_deliveries task polling s.clock s.network.deliveries s.clock
      split
      · next ended _ =>
        obtain ⟨ihd, ihn⟩ := ih ended { s with
          network := { s.network with
            deliveries := (c.watch task polling s.clock s.network.deliveries s.clock).left }
          clock := (c.watch task polling s.clock s.network.deliveries s.clock).clock }
        simp only [Ending.turns_after, Ending.surroundings_after, List.map_append,
          List.length_append]
        rw [ihd, ihn, hd, hn, arrivals_add, List.drop_drop]
        exact ⟨rfl, rfl⟩
      · simpa [Ending.turns] using ⟨hd, hn⟩
  | save path bytes unwritable next ih =>
    simp only [run]
    split
    · exact ih _
    · simp [Ending.turns]

/-- **No turn follows one that failed**, and no turn fails in a run with a result. -/
theorem isFailFast_run (p : Program α) (s : Surroundings) :
    IsFailFast (p.run c s).turns (∃ result, (p.run c s).result = .ok result) := by
  induction p generalizing s with
  | done result => exact .of_length_le (by simp [run, Ending.turns]) (by simp [run, Ending.turns])
  | fail failure => exact .of_length_le (by simp [run, Ending.turns]) (by simp [run])
  | tell message next ih => simpa [run] using ih s
  | ask call missing next ih =>
    simp only [run]
    split
    · next answer ha =>
      -- The program goes on with an answer only, so the turns before succeeded.
      obtain ⟨d, ht, hd⟩ := Connection.exchange_succeeds ha
      simp only [Ending.turns_after, turnsOf_map_sent, Ending.result_after, ht]
      exact .append (by simp [Turn.Succeeds, Connection.turn, hd]) (ih answer _)
    · exact .of_length_le (by simpa [Ending.turns] using Connection.exchange_turns_length_le _)
        (by simp)
  | await task polling next ih =>
    simp only [run]
    split
    · exact .of_length_le (by simp [Ending.turns]) (by simp)
    · have hw := c.isFailFast_watch task polling s.clock s.network.deliveries s.clock
      split
      · next ended he =>
        simp only [Ending.turns_after, Ending.result_after]
        exact .append (hw.2 ⟨ended, he⟩) (ih ended _)
      · exact ⟨hw.1, by simp⟩
  | save path bytes unwritable next ih =>
    simp only [run]
    split
    · exact ih _
    · exact .of_length_le (by simp [Ending.turns]) (by simp)

/-- Nobody comes or goes at the far end in a run. -/
theorem isListening_run (p : Program α) (s : Surroundings) :
    (p.run c s).surroundings.network.isListening = s.network.isListening := by
  induction p generalizing s with
  | done result => rfl
  | fail failure => rfl
  | tell message next ih => exact ih s
  | ask call missing next ih =>
    rcases run_ask_cases (c := c) call missing next s with
      ⟨fault, -, he⟩ | ⟨d, s', hl, ⟨fault, -, he⟩ | ⟨answer, -, he⟩⟩
    · rw [he]
      rfl
    · rw [he]
      exact hl
    · rw [he]
      exact (ih answer s').trans hl
  | await task polling next ih =>
    simp only [run]
    split
    · rfl
    · split
      · exact ih _ _
      · rfl
  | save path bytes unwritable next ih =>
    simp only [run]
    split
    · exact ih _
    · rfl

end Program

end HostConsole
