import HostConsole.Proofs.Conversation

/-!
# One change

A program that looks things up, asks for at most one change, and then looks at nothing but the
task that the change started. The turns of its runs have the same form.

## Two kinds of composition

`Program.ChangesOnce` speaks of the calls that a program can come to, whatever it is answered, and
not of its runs. It is not kept when two such programs follow each other, for each may ask for a
change. What may go before a change is a program that only looks things up (`Inquires.bind`), and
what may come behind one is a program that makes no calls (`ChangesOnce.bind`). Every command is
put together by these two.

## Main definitions

* `Program.ChangesOnce`, `Program.Inquires`, `Program.Follows`: which calls a program can come to
* `Phased`: lookups, perhaps a change, and looks at the task that it started

## Main results

* `Program.Inquires.bind`, `Program.ChangesOnce.bind`: how such programs are composed
* `Program.ChangesOnce.phased_run`: the turns of a program that changes once
* `Program.exists_gives_of_change`: a change is asked for with what the lookups before it gave
-/

namespace HostConsole

/-- The task that a change started. -/
def Change.started? : (ch : Change) → ch.Answer → Option String
  | .packageAction _ _, (task : Task) => some task.uuid
  | _, _ => none

namespace Program

variable {α β : Type} {allowed : Change → Prop} {started : Option String}

/-- The program makes no calls of its own; it only waits for the task that was started, if one
was. -/
def Follows (started : Option String) : Program α → Prop
  | .done _ | .fail _ => True
  | .tell _ next | .save _ _ _ next => next.Follows started
  | .ask _ _ _ => False
  | .await task _ next => started = some task ∧ ∀ ended, (next ended).Follows started

/-- Behind lookups the program asks for an allowed change, if for any, and then only follows
it. -/
def ChangesOnce (allowed : Change → Prop) : Program α → Prop
  | .done _ | .fail _ => True
  | .tell _ next | .save _ _ _ next => next.ChangesOnce allowed
  | .ask (.lookup _) _ next => ∀ answer, (next answer).ChangesOnce allowed
  | .ask (.change ch) _ next => allowed ch ∧ ∀ answer, (next answer).Follows (ch.started? answer)
  | .await _ _ _ => False

/-- All calls that the program can come to are lookups. -/
def Inquires (p : Program α) : Prop :=
  p.ChangesOnce fun _ => False

/-! ## Composition -/

theorem Follows.bind {p : Program α} {f : α → Program β} (h : p.Follows started)
    (hf : ∀ result, (f result).Follows started) : (p >>= f).Follows started := by
  change (p.bind f).Follows started
  -- The task stays the same throughout, so the hypothesis on `f` is about it too.
  induction p with
  | done result => exact hf result
  | fail failure => trivial
  | tell message next ih => exact ih h
  | ask call missing next ih => exact h.elim
  | await task polling next ih => exact ⟨h.1, fun ended => ih ended (h.2 ended)⟩
  | save path bytes unwritable next ih => exact ih h

/-- Lookups may go before a change. -/
theorem Inquires.bind {p : Program α} {f : α → Program β} (h : p.Inquires)
    (hf : ∀ result, (f result).ChangesOnce allowed) : (p >>= f).ChangesOnce allowed := by
  change (p.bind f).ChangesOnce allowed
  induction p with
  | done result => exact hf result
  | fail failure => trivial
  | tell message next ih => exact ih h
  | ask call missing next ih =>
    cases call with
    | lookup l => exact fun answer => ih answer (h answer)
    | change ch =>
      -- No change is allowed in `p`.
      exact h.1.elim
  | await task polling next ih => exact h.elim
  | save path bytes unwritable next ih => exact ih h

theorem ChangesOnce.mono {p : Program α} {wider : Change → Prop} (h : p.ChangesOnce allowed)
    (hw : ∀ ch, allowed ch → wider ch) : p.ChangesOnce wider := by
  induction p with
  | done result => trivial
  | fail failure => trivial
  | tell message next ih => exact ih h
  | ask call missing next ih =>
    cases call with
    | lookup l => exact fun answer => ih answer (h answer)
    | change ch => exact ⟨hw ch h.1, h.2⟩
  | await task polling next ih => exact h.elim
  | save path bytes unwritable next ih => exact ih h

theorem Inquires.changesOnce {p : Program α} (h : p.Inquires) : p.ChangesOnce allowed :=
  h.mono fun _ => False.elim

theorem Follows.of_none {p : Program α} (h : p.Follows none) : p.Follows started := by
  induction p with
  | done result => trivial
  | fail failure => trivial
  | tell message next ih => exact ih h
  | ask call missing next ih => exact h.elim
  | await task polling next ih =>
    -- Nothing was started, so there is nothing to wait for.
    cases h.1
  | save path bytes unwritable next ih => exact ih h

theorem Follows.changesOnce {p : Program α} (h : p.Follows none) : p.ChangesOnce allowed := by
  induction p with
  | done result => trivial
  | fail failure => trivial
  | tell message next ih => exact ih h
  | ask call missing next ih => exact h.elim
  | await task polling next ih => cases h.1
  | save path bytes unwritable next ih => exact ih h

/-- No call may come behind a change. -/
theorem ChangesOnce.bind {p : Program α} {f : α → Program β} (h : p.ChangesOnce allowed)
    (hf : ∀ result, (f result).Follows none) : (p >>= f).ChangesOnce allowed := by
  change (p.bind f).ChangesOnce allowed
  -- Where `p` never comes to its change, what comes behind it still makes no calls.
  induction p with
  | done result => exact (hf result).changesOnce
  | fail failure => trivial
  | tell message next ih => exact ih h
  | ask call missing next ih =>
    cases call with
    | lookup l => exact fun answer => ih answer (h answer)
    | change ch => exact ⟨h.1, fun answer => (h.2 answer).bind fun result => (hf result).of_none⟩
  | await task polling next ih => exact h.elim
  | save path bytes unwritable next ih => exact ih h

/-! ## Programs of one step -/

theorem inquires_look (l : Lookup) (missing : Option Failure) : (look l missing).Inquires :=
  fun _ => trivial

theorem inquires_require (x : Except Failure α) : (require x).Inquires := by
  cases x <;> trivial

theorem follows_require (x : Except Failure α) : (require x).Follows started := by
  cases x <;> trivial

theorem follows_verdict {good : Prop} [Decidable good] {success failure : String} :
    (if good then succeed success else disappoint failure).Follows started := by
  split <;> trivial

/-- A change with what follows it. -/
theorem changesOnce_change_bind {ch : Change} {f : ch.Answer → Program β} (ha : allowed ch)
    (hf : ∀ answer, (f answer).Follows (ch.started? answer)) :
    (change ch >>= f).ChangesOnce allowed := ⟨ha, hf⟩

end Program

/-! ## Runs -/

namespace Turn

/-- The call of the turn is a lookup. -/
def IsLookup (t : Turn) : Prop :=
  ∃ l, t.call = .lookup l

/-- The turn is a look at the task that a package action started. -/
def Polls (changed t : Turn) : Prop :=
  ∃ uuid action, changed.call = .change (.packageAction uuid action) ∧
    ∃ task : Task, changed.delivery.answer? (.change (.packageAction uuid action)) = some task ∧
      t.call = .lookup (.task task.uuid)

end Turn

/-- Lookups, and perhaps behind them an allowed change and looks at the task that it started. -/
inductive Phased (allowed : Change → Prop) : List Turn → Prop where
  | looking {looks : List Turn} (looked : ∀ t ∈ looks, t.IsLookup) : Phased allowed looks
  | changing {looks polls : List Turn} {changed : Turn} {ch : Change}
      (looked : ∀ t ∈ looks, t.IsLookup) (asked : changed.call = .change ch) (ok : allowed ch)
      (polled : ∀ t ∈ polls, changed.Polls t) : Phased allowed (looks ++ changed :: polls)

namespace Phased

variable {allowed : Change → Prop} {looks turns : List Turn}

theorem append (hl : ∀ t ∈ looks, t.IsLookup) (h : Phased allowed turns) :
    Phased allowed (looks ++ turns) := by
  have both {more : List Turn} (hm : ∀ t ∈ more, t.IsLookup) :
      ∀ t ∈ looks ++ more, t.IsLookup := by
    intro t ht
    rcases List.mem_append.mp ht with ht | ht
    · exact hl t ht
    · exact hm t ht
  cases h with
  | looking looked => exact .looking (both looked)
  | changing looked asked ok polled =>
    rw [← List.append_assoc]
    exact .changing (both looked) asked ok polled

/-- Every change among the turns is an allowed one. -/
theorem allowed_of_mem (h : Phased allowed turns) {t : Turn} (ht : t ∈ turns) {ch : Change}
    (hc : t.call = .change ch) : allowed ch := by
  have not_lookup : ¬ t.IsLookup := by
    rintro ⟨l, hl⟩
    rw [hl] at hc
    cases hc
  cases h with
  | looking looked => exact absurd (looked t ht) not_lookup
  | changing looked asked ok polled =>
    rcases List.mem_append.mp ht with ht | ht
    · exact absurd (looked t ht) not_lookup
    · rcases List.mem_cons.mp ht with rfl | ht
      · -- the change itself
        rw [asked] at hc
        cases hc
        exact ok
      · -- a look at the task
        obtain ⟨_, _, _, task, _, hp⟩ := polled t ht
        exact absurd ⟨_, hp⟩ not_lookup

end Phased

namespace Program

variable {α : Type} {allowed : Change → Prop} {started : Option String} {c : Connection}

/-- The turns of a program that only follows are looks at the task. -/
theorem Follows.call_eq {p : Program α} (h : p.Follows started) {s : Surroundings} {t : Turn}
    (ht : t ∈ (p.run c s).turns) : ∃ task, started = some task ∧ t.call = .lookup (.task task) := by
  induction p generalizing s with
  | done result => cases ht
  | fail failure => cases ht
  | tell message next ih => exact ih h (by simpa [run] using ht)
  | ask call missing next ih => exact h.elim
  | await task polling next ih =>
    have watched {ds : List Delivery} {clock : Nat}
        (hw : t ∈ turnsOf (c.watch task polling s.clock ds clock).events) :
        ∃ task, started = some task ∧ t.call = .lookup (.task task) := by
      refine ⟨task, h.1, ?_⟩
      rw [c.watch_turn task polling s.clock hw]
      rfl
    simp only [run] at ht
    split at ht
    · cases ht
    · split at ht
      · rw [Ending.turns_after] at ht
        rcases List.mem_append.mp ht with ht | ht
        · exact watched ht
        · exact ih _ (h.2 _) ht
      · exact watched ht
  | save path bytes unwritable next ih =>
    simp only [run] at ht
    split at ht
    · exact ih h ht
    · cases ht

/-- **A program that changes once makes phased turns.** -/
theorem ChangesOnce.phased_run {p : Program α} (h : p.ChangesOnce allowed) (s : Surroundings) :
    Phased allowed (p.run c s).turns := by
  -- Induction on the program. Behind a lookup the rest is phased, and the lookup goes before it;
  -- behind a change the rest only follows, and its turns are the looks at the task.
  induction p generalizing s with
  | done result => exact .looking (by simp [run, Ending.turns])
  | fail failure => exact .looking (by simp [run, Ending.turns])
  | tell message next ih => simpa [run] using ih h s
  | ask call missing next ih =>
    have carries {t : Turn} (ht : t ∈ (c.exchange call s.network).turns) : t.call = call := by
      rw [Connection.exchange_turn ht]
      rfl
    cases call with
    | lookup l =>
      have looked : ∀ t ∈ (c.exchange (.lookup l) s.network).turns, t.IsLookup :=
        fun t ht => ⟨l, carries ht⟩
      simp only [run]
      split
      · next answer _ =>
        rw [Ending.turns_after, turnsOf_map_sent]
        exact (ih answer (h answer) _).append looked
      · exact .looking (by simpa [Ending.turns] using looked)
    | change ch =>
      simp only [run]
      split
      · next answer ha =>
        -- The turn of the change starts the task that the rest of the program follows.
        obtain ⟨d, ht, hd⟩ := Connection.exchange_succeeds ha
        rw [Ending.turns_after, turnsOf_map_sent, ht]
        refine @Phased.changing _ [] _ _ _ (by simp) rfl h.1 fun t hn => ?_
        obtain ⟨task, hs, hc⟩ := (h.2 answer).call_eq hn
        cases ch with
        | packageAction uuid action =>
          cases hs
          exact ⟨uuid, action, rfl, answer, hd, hc⟩
        | _ =>
          -- The other changes start no task.
          cases hs
      · -- The change has failed, and the run ends with its turn or without one.
        rw [Ending.turns, turnsOf_map_sent]
        rcases ht : (c.exchange (.change ch) s.network).turns with _ | ⟨changed, more⟩
        · exact .looking (by simp)
        · have hl := @Connection.exchange_turns_length_le c (.change ch) s.network
          obtain rfl : more = [] := by
            rw [ht] at hl
            exact List.eq_nil_of_length_eq_zero (by simpa using hl)
          have asked : changed.call = .change ch := by
            apply carries
            rw [ht]
            exact List.mem_singleton_self _
          exact @Phased.changing _ [] _ _ _ (by simp) asked h.1 (by simp)
  | await task polling next ih => exact h.elim
  | save path bytes unwritable next ih =>
    simp only [run]
    split
    · exact ih h _
    · exact .looking (by simp [Ending.turns])

/-- The turns of a program that only looks things up are lookups. -/
theorem Inquires.isLookup_of_mem {p : Program α} (h : p.Inquires) {s : Surroundings} {t : Turn}
    (ht : t ∈ (p.run c s).turns) : t.IsLookup := by
  have phased := h.phased_run (c := c) s
  generalize (p.run c s).turns = turns at ht phased
  cases phased with
  | looking looked => exact looked t ht
  | changing looked asked ok polled => exact ok.elim

/-- A change with no other call behind it cannot go out, or it is the one turn. -/
theorem run_last_change {ch : Change} (rest : ch.Answer → Program α)
    (follows : ∀ answer, (rest answer).Follows none) (s : Surroundings) :
    (∃ fault, ((ask (.change ch) none rest).run c s).turns = [] ∧
      ((ask (.change ch) none rest).run c s).result = .error (.remote fault)) ∨
    ∃ d, ((ask (.change ch) none rest).run c s).turns = [c.turn (.change ch) d] := by
  rcases run_ask_cases (c := c) (.change ch) none rest s with
    ⟨fault, -, he⟩ | ⟨d, s', -, ⟨fault, -, he⟩ | ⟨answer, -, he⟩⟩
  · rw [he]
    exact .inl ⟨fault, rfl, rfl⟩
  · rw [he]
    exact .inr ⟨d, rfl⟩
  · have silent : ((rest answer).run c s').turns = [] := by
      refine List.eq_nil_iff_forall_not_mem.mpr fun t ht => ?_
      obtain ⟨task, started, -⟩ := (follows answer).call_eq ht
      cases started
    rw [he, Ending.turns_after, silent]
    exact .inr ⟨d, rfl⟩

/-- **The change behind some lookups.** It is asked for with what they gave, and its turn is the
last one. -/
theorem exists_gives_of_change {β : Type} {p : Program α} (looks : p.Inquires)
    {changeFor : α → Change} {rest : (found : α) → (changeFor found).Answer → Program β}
    {whole : Program β}
    (he : whole = p >>= fun found => ask (.change (changeFor found)) none (rest found))
    (follows : ∀ found answer, (rest found answer).Follows none)
    {s : Surroundings} {t : Turn} (ht : t ∈ (whole.run c s).turns) {ch : Change}
    (hc : t.call = .change ch) :
    ∃ found before, p.Gives c s before found ∧ ch = changeFor found ∧
      (whole.run c s).turns = before ++ [t] := by
  subst he
  -- The change cannot stand among the lookups.
  have later : t ∉ (p.run c s).turns := by
    intro hm
    obtain ⟨l, hl⟩ := looks.isLookup_of_mem hm
    cases hc.symm.trans hl
  rw [run_bind] at ht ⊢
  cases hf : (p.run c s).result with
  | error failure =>
    rw [Ending.turns_andThen_of_error hf] at ht
    exact absurd ht later
  | ok found =>
    rw [Ending.turns_andThen_of_ok hf] at ht ⊢
    have last := (List.mem_append.mp ht).resolve_left later
    rcases run_last_change (c := c) (rest found) (follows found) (p.run c s).surroundings with
      ⟨fault, none, -⟩ | ⟨d, one⟩
    · rw [none] at last
      cases last
    · rw [one] at last ⊢
      obtain rfl := List.mem_singleton.mp last
      exact ⟨found, _, ⟨rfl, hf⟩, (Call.change.inj hc).symm, rfl⟩

end Program

end HostConsole
