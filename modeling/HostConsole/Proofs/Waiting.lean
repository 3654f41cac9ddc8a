import HostConsole.Proofs.OrderlyRuns
import Mathlib.Algebra.Order.Floor.Div
import Mathlib.Data.ENat.Lattice

/-!
# Waiting for a task

A wait looks at a task at once and then behind each interval. Two things can end it: a look that
settles it, because it gets no answer or because the task has ended, and a look at a time when the
timeout is over. The first is a matter of what arrives, the second of how often the program has
looked, because the clock moves by the sleeps alone. So a wait has a closed form.

The looks that do not end a wait are taken together in `Connection.watch_append`, which holds for
whatever arrives behind them. The look that ends it is one of two, `Connection.watch_of_settles`
and `Connection.watch_of_not_settles`, and `Polling.isOver_mul_interval` says which of them comes
first.

## Main definitions

* `Delivery.snapshot?`: the task that a look is told of
* `Delivery.settles`, `settlingLook`: the looks that settle a wait, and the first one of them
* `Polling.mostLooks`: how many looks there can be before the timeout is over
* `Connection.look`: what is seen of a look
* `IsWait`: the closed form of a wait

## Main results

* `Program.run_waitFor`: every wait has its closed form
-/

namespace HostConsole

/-- The task that the server tells of in what arrived for a look at it. -/
def Delivery.snapshot? (task : String) (d : Delivery) : Option Task :=
  d.answer? (.lookup (.task task))

/-- What arrived for a look at a task settles a wait: it is no answer, or the task has ended. -/
def Delivery.settles (task : String) (d : Delivery) : Bool :=
  match d.snapshot? task with
  | some seen => seen.state.isTerminal
  | none => true

/-- The first look that settles a wait, counted from one. Once the deliveries are used up nothing
arrives, and that settles every wait. -/
def settlingLook (task : String) (ds : List Delivery) : ℕ :=
  ds.findIdx (Delivery.settles task) + 1

/-- How many looks there can be: the intervals that the timeout takes, and the first look, which
is at once. -/
def Polling.mostLooks (polling : Polling) : ℕ∞ :=
  match polling.timeout with
  | some timeout => ((timeout ⌈/⌉ polling.interval + 1 : ℕ) : ℕ∞)
  | none => ⊤

/-- Every name of a state is that of an ended task but three. -/
theorem TaskState.isTerminal_ofName (name : String) :
    (ofName name).isTerminal = true ↔
      name ≠ "waiting" ∧ name ≠ "pending" ∧ name ≠ "running" := by
  unfold ofName
  split_ifs with waiting running <;> simp_all [isTerminal]
  rcases waiting with rfl | rfl <;> simp

/-! ## Time -/

namespace Polling

variable {polling : Polling}

/-- The timeout is over behind some intervals exactly if the look behind them is the last one. -/
theorem isOver_mul_interval (h : 0 < polling.interval) (n : ℕ) :
    polling.isOver (n * polling.interval) = true ↔ polling.mostLooks ≤ (n + 1 : ℕ) := by
  unfold isOver mostLooks
  cases polling.timeout with
  | none => simp
  | some timeout =>
    simp only [decide_eq_true_eq, ENat.natCast_le_natCast, Nat.add_le_add_iff_right]
    rw [ceilDiv_le_iff_le_mul h, mul_comm]

/-- A timeout allows the first look. -/
theorem exists_mostLooks_eq (h : polling.mostLooks ≠ ⊤) :
    ∃ n : ℕ, polling.mostLooks = (n + 1 : ℕ) := by
  unfold mostLooks at h ⊢
  cases ht : polling.timeout with
  | none => simp [ht] at h
  | some timeout => exact ⟨_, rfl⟩

/-- The time until the last look is the timeout, rounded up to intervals. -/
theorem timeout_le_and_lt (h : 0 < polling.interval) {n timeout : ℕ}
    (hn : polling.mostLooks = (n + 1 : ℕ)) (ht : polling.timeout = some timeout) :
    timeout ≤ n * polling.interval ∧ n * polling.interval < timeout + polling.interval := by
  simp only [mostLooks, ht, ENat.natCast_inj, Nat.add_right_cancel_iff] at hn
  subst hn
  constructor
  · rw [mul_comm, ← ceilDiv_le_iff_le_mul h]
  · rw [Nat.ceilDiv_eq_add_pred_div]
    have floor := Nat.div_mul_le_self (timeout + polling.interval - 1) polling.interval
    omega

end Polling

/-! ## What arrives for the looks -/

/-- The first arrivals, while there are deliveries. -/
theorem arrivals_eq_take {ds : List Delivery} {n : ℕ} (h : n ≤ ds.length) :
    arrivals ds n = ds.take n := by
  induction n generalizing ds with
  | zero => simp
  | succ n ih =>
    cases ds with
    | nil => simp at h
    | cons d ds => rw [arrivals, ih (by simpa using h), List.take_succ_cons]

theorem arrivals_succ {ds : List Delivery} {n : ℕ} (h : n ≤ ds.length) :
    arrivals ds (n + 1) = ds.take n ++ [ds.getD n .nothing] := by
  rw [arrivals_add, arrivals_eq_take h]
  cases hd : ds.drop n with
  | nil =>
    have used_up : ds[n]? = none := by rw [← List.head?_drop, hd]; rfl
    simp [arrivals, List.getD, used_up]
  | cons d rest =>
    have next : ds[n]? = some d := by rw [← List.head?_drop, hd]; rfl
    simp [arrivals, List.getD, next]

theorem settlingLook_le_length (task : String) (ds : List Delivery) :
    settlingLook task ds ≤ ds.length + 1 :=
  Nat.succ_le_succ List.findIdx_le_length

/-- No look before the one that settles a wait does. -/
theorem settles_of_mem_take {task : String} {ds : List Delivery} {n : ℕ}
    (h : n < settlingLook task ds) {d : Delivery} (hd : d ∈ ds.take n) :
    d.settles task = false := by
  obtain ⟨i, hi, rfl⟩ := List.mem_take_iff_getElem.mp hd
  apply List.not_of_lt_findIdx
  unfold settlingLook at h
  omega

/-- The first look that settles a wait settles it. -/
theorem settles_getD_settlingLook (task : String) (ds : List Delivery) :
    (ds.getD (settlingLook task ds - 1) .nothing).settles task = true := by
  change (ds.getD (ds.findIdx _) .nothing).settles task = true
  by_cases h : ds.findIdx (Delivery.settles task) < ds.length
  · rw [List.getD, List.getElem?_eq_getElem h]
    exact List.findIdx_getElem
  · -- The deliveries are used up.
    rw [List.getD, List.getElem?_eq_none (not_lt.mp h)]
    rfl

/-! ## Single looks -/

namespace Connection

variable (c : Connection) (task : String) (polling : Polling) (started : ℕ)

/-- What a look at a task makes of what arrives. -/
def snapshot (d : Delivery) : Except RemoteFault Task :=
  c.receive (.lookup (.task task)) d

/-- What is seen of a look at a task: the request, and the task if the server tells of it. -/
def look (d : Delivery) : List Event :=
  .sent (c.turn (.lookup (.task task)) d) :: ((d.snapshot? task).map Event.saw).toList

variable {c task polling started} {d : Delivery} {ds : List Delivery} {clock : ℕ}

@[simp] theorem turnsOf_look : turnsOf (c.look task d) = [c.turn (.lookup (.task task)) d] := by
  unfold look
  cases d.snapshot? task <;> rfl

theorem snapshot_eq_ok_iff {seen : Task} :
    c.snapshot task d = .ok seen ↔ d.snapshot? task = some seen :=
  receive_eq_ok_iff

/-- A look without an answer ends with a fault. -/
theorem exists_snapshot_eq_error (h : d.snapshot? task = none) :
    ∃ fault, c.snapshot task d = .error fault := by
  cases hs : c.snapshot task d with
  | ok seen =>
    rw [snapshot_eq_ok_iff.mp hs] at h
    cases h
  | error fault => exact ⟨fault, rfl⟩

/-- A look that does not settle a wait sees a task at work. -/
theorem exists_snapshot_of_not_settles (h : d.settles task = false) :
    ∃ seen, c.snapshot task d = .ok seen ∧ seen.state.isTerminal = false := by
  unfold Delivery.settles at h
  cases ht : d.snapshot? task with
  | none =>
    rw [ht] at h
    cases h
  | some seen =>
    rw [ht] at h
    exact ⟨seen, snapshot_eq_ok_iff.mpr ht, h⟩

/-- A look that tells of a task ends the wait if the task has ended or the timeout is over. -/
theorem watch_of_snapshot {seen : Task} (hs : c.snapshot task d = .ok seen) :
    c.watch task polling started (d :: ds) clock =
      if seen.state.isTerminal then { result := .ok seen, events := c.look task d, left := ds, clock }
      else if polling.isOver (clock - started) then
        { result := .error (.taskTimeout task (clock - started)), events := c.look task d
          left := ds, clock }
      else (c.watch task polling started ds (clock + polling.interval)).after
        (c.look task d ++ [.slept polling.interval]) := by
  rw [look, snapshot_eq_ok_iff.mp hs, watch]
  change c.receive (.lookup (.task task)) d = _ at hs
  simp only [hs]
  rfl

/-- A look without an answer ends the wait. -/
theorem watch_of_no_snapshot {fault : RemoteFault} (hs : c.snapshot task d = .error fault) :
    c.watch task polling started (d :: ds) clock =
      { result := .error (.remote fault), events := c.look task d, left := ds, clock } := by
  change c.receive (.lookup (.task task)) d = _ at hs
  rw [look, Delivery.snapshot?, answer?_of_receive_error hs, watch]
  simp only [hs]
  rfl

/-- A look that settles a wait ends it with what the look told. -/
theorem watch_of_settles (h : (ds.getD 0 .nothing).settles task = true) :
    c.watch task polling started ds clock =
      { result := (c.snapshot task (ds.getD 0 .nothing)).mapError .remote
        events := c.look task (ds.getD 0 .nothing)
        left := ds.drop 1
        clock } := by
  cases ds with
  | nil => rfl
  | cons d ds =>
    change d.settles task = true at h
    change _ = Watch.mk ((c.snapshot task d).mapError .remote) (c.look task d) ds clock
    cases hs : c.snapshot task d with
    | error fault => exact watch_of_no_snapshot hs
    | ok seen =>
      rw [Delivery.settles, snapshot_eq_ok_iff.mp hs] at h
      rw [watch_of_snapshot hs, if_pos h]
      rfl

/-- A look that sees a task still at work ends the wait if the timeout is over. -/
theorem watch_of_not_settles (h : d.settles task = false) :
    c.watch task polling started (d :: ds) clock =
      if polling.isOver (clock - started) then
        { result := .error (.taskTimeout task (clock - started)), events := c.look task d
          left := ds, clock }
      else (c.watch task polling started ds (clock + polling.interval)).after
        (c.look task d ++ [.slept polling.interval]) := by
  obtain ⟨seen, hs, working⟩ := exists_snapshot_of_not_settles (c := c) h
  rw [watch_of_snapshot hs, if_neg (by simp [working])]

/-! ## The looks of a wait -/

/-- Looks that neither settle a wait nor come when the timeout is over are each followed by a
sleep, and the wait goes on behind them. -/
theorem watch_append {seen : List Delivery} (hs : ∀ d ∈ seen, d.settles task = false)
    (ho : ∀ n < seen.length, polling.isOver (clock + n * polling.interval - started) = false) :
    c.watch task polling started (seen ++ ds) clock =
      (c.watch task polling started ds (clock + seen.length * polling.interval)).after
        (seen.flatMap fun d => c.look task d ++ [.slept polling.interval]) := by
  -- Every look moves the clock by one interval, so the induction is for any clock.
  induction seen generalizing clock with
  | nil => simp [Watch.after]
  | cons d seen ih =>
    have shift (n : ℕ) : clock + polling.interval + n * polling.interval =
        clock + (n + 1) * polling.interval := by
      rw [Nat.succ_mul]
      omega
    have now : polling.isOver (clock - started) = false := by simpa using ho 0 (by simp)
    have later : ∀ n < seen.length,
        polling.isOver (clock + polling.interval + n * polling.interval - started) = false := by
      intro n hn
      rw [shift]
      exact ho (n + 1) (by simpa using hn)
    rw [List.cons_append, watch_of_not_settles (hs d (by simp)), if_neg (by simp [now]),
      ih (fun d hd => hs d (List.mem_cons_of_mem _ hd)) later]
    simp only [Watch.after, List.flatMap_cons, List.append_assoc, List.length_cons, shift]

/-- The looks of a wait that has not ended yet. -/
theorem watch_drop (hi : 0 < polling.interval) {n : ℕ} (hn : n < settlingLook task ds)
    (hk : n < polling.mostLooks) :
    c.watch task polling clock ds clock =
      (c.watch task polling clock (ds.drop n) (clock + n * polling.interval)).after
        ((ds.take n).flatMap fun d => c.look task d ++ [.slept polling.interval]) := by
  have hl : (ds.take n).length = n := by
    have := settlingLook_le_length task ds
    rw [List.length_take]
    omega
  have early : ∀ k < (ds.take n).length,
      polling.isOver (clock + k * polling.interval - clock) = false := by
    intro k hlt
    rw [hl] at hlt
    rw [Nat.add_sub_cancel_left]
    apply Bool.eq_false_of_not_eq_true
    rw [Polling.isOver_mul_interval hi]
    intro elapsed
    have beyond : n < k + 1 := by exact_mod_cast hk.trans_le elapsed
    omega
  conv_lhs => rw [← List.take_append_drop n ds]
  rw [watch_append (fun d hd => settles_of_mem_take hn hd) early, hl]

end Connection

/-- Looks with something between each two of them. -/
theorem intercalate_map_concat {α β : Type} (between : List β) (f : α → List β) (xs : List α)
    (last : α) : between.intercalate ((xs ++ [last]).map f) =
      (xs.flatMap fun x => f x ++ between) ++ f last := by
  induction xs with
  | nil => simp
  | cons x xs ih =>
    rw [List.cons_append, List.map_cons, List.intercalate_cons_of_ne_nil (by simp), ih]
    simp

namespace Connection

variable {c : Connection} {task : String} {polling : Polling} {ds : List Delivery} {clock : ℕ}

/-- **A watch that a look settles** ends with what that look told. -/
theorem watch_of_le_mostLooks (h : 0 < polling.interval)
    (hm : settlingLook task ds ≤ polling.mostLooks) :
    c.watch task polling clock ds clock =
      { result := (c.snapshot task (ds.getD (settlingLook task ds - 1) .nothing)).mapError .remote
        events := [.slept polling.interval].intercalate
          ((arrivals ds (settlingLook task ds)).map (c.look task))
        left := ds.drop (settlingLook task ds)
        clock := clock + (settlingLook task ds - 1) * polling.interval } := by
  have settled := settles_getD_settlingLook task ds
  obtain ⟨n, hn⟩ : ∃ n, settlingLook task ds = n + 1 := ⟨_, rfl⟩
  rw [hn] at hm settled ⊢
  rw [Nat.add_sub_cancel] at settled ⊢
  have used : n ≤ ds.length := by
    have := settlingLook_le_length task ds
    omega
  have next : (ds.drop n).getD 0 .nothing = ds.getD n .nothing := by
    simp [List.getD]
  rw [watch_drop h (by omega) ((Nat.cast_lt.mpr (Nat.lt_succ_self n)).trans_le hm),
    watch_of_settles (next ▸ settled), next, arrivals_succ used, intercalate_map_concat]
  simp [Watch.after, List.drop_drop]

/-- **A watch whose timeout is over first** ends with the time that it took. -/
theorem watch_of_mostLooks_lt (h : 0 < polling.interval) {n : ℕ}
    (hk : polling.mostLooks = (n + 1 : ℕ)) (hm : n + 1 < settlingLook task ds) :
    c.watch task polling clock ds clock =
      { result := .error (.taskTimeout task (n * polling.interval))
        events := [.slept polling.interval].intercalate ((arrivals ds (n + 1)).map (c.look task))
        left := ds.drop (n + 1)
        clock := clock + n * polling.interval } := by
  have some_left : n < ds.length := by
    have := settlingLook_le_length task ds
    omega
  have elapsed : polling.isOver (n * polling.interval) = true := by
    rw [Polling.isOver_mul_interval h, hk]
  have working : (ds[n]).settles task = false := by
    apply List.not_of_lt_findIdx
    unfold settlingLook at hm
    omega
  have last : ds.getD n .nothing = ds[n] := by
    rw [List.getD, List.getElem?_eq_getElem some_left]
    rfl
  have early : (n : ℕ∞) < polling.mostLooks := by
    rw [hk]
    exact Nat.cast_lt.mpr (Nat.lt_succ_self n)
  rw [watch_drop h (Nat.lt_of_succ_lt hm) early, List.drop_eq_getElem_cons some_left,
    watch_of_not_settles working, Nat.add_sub_cancel_left, if_pos elapsed, arrivals_succ some_left.le,
    last, intercalate_map_concat]
  simp [Watch.after]

/-- The turns of some looks. -/
theorem turnsOf_intercalate_look (ds : List Delivery) :
    turnsOf ([.slept polling.interval].intercalate (ds.map (c.look task))) =
      ds.map (c.turn (.lookup (.task task))) := by
  induction ds with
  | nil => rfl
  | cons d ds ih =>
    cases ds with
    | nil => simp
    | cons next ds =>
      rw [List.map_cons, List.intercalate_cons_of_ne_nil (by simp), turnsOf_append, ih,
        turnsOf_append, turnsOf_look]
      rfl

end Connection

/-- The closed form of a wait whose looks can go out. -/
structure IsWait (c : Connection) (task : String) (polling : Polling) (s : Surroundings)
    (looks : ℕ) (e : Ending Task) : Prop where
  /-- It looks until a look settles it, and as often as the timeout allows. -/
  looks_eq : (looks : ℕ∞) = min (settlingLook task s.network.deliveries : ℕ∞) polling.mostLooks
  turns_eq : e.turns =
    (arrivals s.network.deliveries looks).map (c.turn (.lookup (.task task)))
  /-- The first look is at once and each further one behind a sleep. -/
  events_eq : e.events = [.slept polling.interval].intercalate
    ((arrivals s.network.deliveries looks).map (c.look task))
  surroundings_eq : e.surroundings =
    { s with
      network := { s.network with deliveries := s.network.deliveries.drop looks }
      clock := s.clock + (looks - 1) * polling.interval }
  /-- If there is a look that settles it, the wait ends with what that one told. -/
  settled : settlingLook task s.network.deliveries ≤ polling.mostLooks → e.result =
    (c.snapshot task
      (s.network.deliveries.getD (settlingLook task s.network.deliveries - 1)
        .nothing)).mapError .remote
  /-- If there is none, it ends with the time that it took. -/
  overdue : polling.mostLooks < settlingLook task s.network.deliveries → ∃ waited,
    e.result = .error (.taskTimeout task waited) ∧ waited = (looks - 1) * polling.interval ∧
      ∀ timeout, polling.timeout = some timeout →
        timeout ≤ waited ∧ waited < timeout + polling.interval

namespace Program

variable {c : Connection} {task : String} {polling : Polling} {s : Surroundings}

theorem run_waitFor_of_obstacle {fault : RemoteFault}
    (ho : c.obstacle? s.network.isListening (Lookup.task task).request = some fault) :
    (waitFor task polling).run c s = .ofResult s (.error (.remote fault)) := by
  simp only [waitFor, run, ho]
  rfl

/-- A wait whose looks can go out is a watch. -/
theorem run_waitFor_of_no_obstacle
    (ho : c.obstacle? s.network.isListening (Lookup.task task).request = none) :
    (waitFor task polling).run c s =
      { result := (c.watch task polling s.clock s.network.deliveries s.clock).result
        events := (c.watch task polling s.clock s.network.deliveries s.clock).events
        surroundings := { s with
          network := { s.network with
            deliveries := (c.watch task polling s.clock s.network.deliveries s.clock).left }
          clock := (c.watch task polling s.clock s.network.deliveries s.clock).clock } } := by
  simp only [waitFor, run, ho]
  cases (c.watch task polling s.clock s.network.deliveries s.clock).result with
  | ok ended => simp [Ending.after]
  | error failure => rfl

theorem exists_isWait (h : 0 < polling.interval)
    (ho : c.obstacle? s.network.isListening (Lookup.task task).request = none) :
    ∃ looks, IsWait c task polling s looks ((waitFor task polling).run c s) := by
  rw [run_waitFor_of_no_obstacle ho]
  rcases le_or_gt (settlingLook task s.network.deliveries : ℕ∞) polling.mostLooks with hm | hm
  · -- A look settles the wait in time.
    rw [Connection.watch_of_le_mostLooks h hm]
    exact ⟨_, (min_eq_left hm).symm, Connection.turnsOf_intercalate_look _, rfl, rfl,
      fun _ => rfl, fun late => absurd hm late.not_ge⟩
  · -- The timeout is over before.
    obtain ⟨n, hk⟩ := Polling.exists_mostLooks_eq hm.ne_top
    have first : n + 1 < settlingLook task s.network.deliveries := by
      rw [hk] at hm
      exact_mod_cast hm
    rw [Connection.watch_of_mostLooks_lt h hk first]
    exact ⟨n + 1, by rw [min_eq_right hm.le, hk], Connection.turnsOf_intercalate_look _, rfl, rfl,
      fun early => absurd hm early.not_gt,
      fun _ => ⟨_, rfl, rfl, fun timeout => Polling.timeout_le_and_lt h hk⟩⟩

/-- **A wait has a closed form**, whatever arrives. Every state ends it but those of three names.
A wait whose first look cannot go out ends with that. -/
theorem run_waitFor (h : 0 < polling.interval) :
    (∀ name, ∃ state, TaskState.ofJson? (.string name) = some state ∧
      (state.isTerminal = true ↔ name ≠ "waiting" ∧ name ≠ "pending" ∧ name ≠ "running")) ∧
    (∀ fault, c.obstacle? s.network.isListening (Lookup.task task).request = some fault →
      (waitFor task polling).run c s = .ofResult s (.error (.remote fault))) ∧
    (c.obstacle? s.network.isListening (Lookup.task task).request = none →
      ∃ looks, IsWait c task polling s looks ((waitFor task polling).run c s)) :=
  ⟨fun name => ⟨_, rfl, TaskState.isTerminal_ofName name⟩, fun _ => run_waitFor_of_obstacle,
    exists_isWait h⟩

/-- A timeout between two intervals is over at the third look, though the task ends behind it. -/
theorem run_waitFor_of_slow_task :
    let c : Connection := { base := { scheme := "http", host := some (.name "h")
                                      route := .segments ["api"] } }
    let polling : Polling := { interval := 1000, timeout := some 1500 }
    let working := "\x7b\"uuid\":\"t\",\"state\":\"running\"\x7d"
    let ended := "\x7b\"uuid\":\"t\",\"state\":\"finished\"\x7d"
    let s := Surroundings.replying [working, working, working, ended]
    0 < polling.interval ∧
      c.obstacle? s.network.isListening (Lookup.task "t").request = none ∧
      ((waitFor "t" polling).run c s).turns.length = 3 ∧
      ((waitFor "t" polling).run c s).result = .error (.taskTimeout "t" 2000) := by
  intro c polling working ended s
  have goes_out : c.obstacle? s.network.isListening (Lookup.task "t").request = none := by
    decide +kernel
  have settles : settlingLook "t" s.network.deliveries = 4 := by decide +kernel
  have most : polling.mostLooks = (3 : ℕ) :=
    congrArg Nat.cast (show 1500 ⌈/⌉ 1000 + 1 = 3 by decide)
  obtain ⟨looks, wait⟩ := (@run_waitFor c "t" polling s (by decide)).2.2 goes_out
  have three : looks = 3 := by
    have fewest := wait.looks_eq
    rw [settles, most, min_eq_right (by decide)] at fewest
    exact_mod_cast fewest
  refine ⟨by decide, goes_out, ?_, ?_⟩
  · rw [wait.turns_eq, three]
    rfl
  · obtain ⟨waited, hr, rfl, -⟩ := wait.overdue (by rw [settles, most]; decide)
    rw [hr, three]
    rfl

end Program

end HostConsole
