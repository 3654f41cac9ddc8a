import HostConsole.Proofs.Waiting

/-!
# Failing fast

A run ends with the first request that gets no answer, and with an exit code that tells what
arrived for it and nothing else.

A program ends by itself only for reasons that its own words name: data that are not as they
should be, a file that cannot be written, a timeout. All other failures are faults of requests. So
the exit code of a run can be read off what arrived, if it is known of the program what it ends in
by itself.

## Main definitions

* `Turn.Fails`, `Delivery.failureNumber`: the turns without an answer, with their exit codes
* `Program.EndsIn`: what a program can end in by itself
* `FailsFast`: how a run ends, by what arrived

## Main results

* `Connection.exitCode_of_receive`: the exit code of the fault of a turn
* `Program.EndsIn.failsFast_run`: every run fails fast
-/

namespace HostConsole

/-! ## Turns without an answer -/

/-- The turn got no answer: the connection broke, the status is no success, or the content is not
what the call reads. -/
inductive Turn.Fails (t : Turn) : Prop where
  | broken (arrived : t.delivery = .nothing)
  | refused {r : Reply} (arrived : t.delivery = .reply r) (status : isSuccess r.status = false)
  | rejected {r : Reply} {cause : RemoteCause} (arrived : t.delivery = .reply r)
      (status : isSuccess r.status = true) (content : t.call.read r = .error cause)

/-- The exit code for what arrived, where it is no answer. -/
def Delivery.failureNumber : Delivery → Nat
  | .nothing => 69
  | .reply r =>
    if r.status = 404 then 65
    else if r.status = 401 ∨ r.status = 403 then 77
    else if isSuccess r.status then 76
    else 70

theorem Reply.refusal?_of_isSuccess {r : Reply} (h : isSuccess r.status = true) :
    r.refusal? = none := by
  rw [refusal?, if_pos h]

theorem Reply.exists_refusal? {r : Reply} (h : isSuccess r.status = false) :
    ∃ cause, r.refusal? = some cause := by
  cases hr : r.refusal? with
  | none => exact absurd (isSuccess_of_refusal? hr) (by simp [h])
  | some cause => exact ⟨cause, rfl⟩

/-- With success a reply is what the call reads. -/
theorem Call.answer_of_isSuccess {call : Call} {r : Reply} (h : isSuccess r.status = true) :
    call.answer r = call.read r := by
  rw [answer, Reply.refusal?_of_isSuccess h]

/-- A turn fails exactly if it does not succeed. -/
theorem Turn.fails_iff {t : Turn} : t.Fails ↔ ¬ t.Succeeds := by
  obtain ⟨call, request, delivery⟩ := t
  unfold Succeeds
  constructor
  · rintro (arrived | ⟨arrived, status⟩ | ⟨arrived, status, content⟩)
    · obtain rfl : delivery = .nothing := arrived
      simp [Delivery.answer?]
    · obtain rfl : delivery = .reply _ := arrived
      obtain ⟨cause, hc⟩ := Reply.exists_refusal? status
      simp [Delivery.answer?, Call.answer_of_refusal hc, Except.toOption]
    · obtain rfl : delivery = .reply _ := arrived
      change call.read _ = _ at content
      simp [Delivery.answer?, Call.answer_of_isSuccess status, content, Except.toOption]
  · intro unanswered
    cases delivery with
    | nothing => exact .broken rfl
    | reply r =>
      cases status : isSuccess r.status with
      | false => exact .refused rfl status
      | true =>
        cases content : call.read r with
        | error cause => exact .rejected rfl status content
        | ok answer =>
          simp [Delivery.answer?, Call.answer_of_isSuccess status, content,
            Except.toOption] at unanswered

theorem error_or_of_bind_eq_error {ε α β : Type} {x : Except ε α} {f : α → Except ε β} {e : ε}
    (h : (x >>= f) = .error e) : x = .error e ∨ ∃ a, x = .ok a ∧ f a = .error e := by
  cases x with
  | ok a => exact .inr ⟨a, rfl, h⟩
  | error e' =>
    cases h
    exact .inl rfl

/-! A content that is not what a call reads is always unreadable, whatever the call. -/

/-- The content is not what was asked for. -/
def RemoteCause.IsUnreadable (cause : RemoteCause) : Prop :=
  ∃ message, cause = .unreadable message

namespace Reply

variable {r : Reply} {cause : RemoteCause}

theorem isUnreadable_of_bytes (h : r.bytes = .error cause) : cause.IsUnreadable := by
  unfold bytes at h
  split at h <;> cases h
  exact ⟨_, rfl⟩

theorem isUnreadable_of_record {α : Type} {reader : Json → Option α}
    (h : r.record reader = .error cause) : cause.IsUnreadable := by
  rcases error_or_of_bind_eq_error h with h | ⟨content, -, h⟩
  · exact isUnreadable_of_bytes h
  · -- no value, or a value of another form
    split at h
    · cases h
      exact ⟨_, rfl⟩
    · split at h <;> cases h
      exact ⟨_, rfl⟩

theorem isUnreadable_of_report (h : r.report = .error cause) : cause.IsUnreadable := by
  rcases error_or_of_bind_eq_error h with h | ⟨content, -, h⟩
  · exact isUnreadable_of_bytes h
  · cases h

theorem isUnreadable_of_confirmation (h : r.confirmation = .error cause) :
    cause.IsUnreadable := by
  rcases error_or_of_bind_eq_error h with h | ⟨content, -, h⟩
  · exact isUnreadable_of_bytes h
  · -- No content confirms; else the value decides, if there is one.
    dsimp only at h
    split at h
    · cases h
    · split at h <;> cases h
      exact ⟨_, rfl⟩

end Reply

theorem Call.isUnreadable_of_read {call : Call} {r : Reply} {cause : RemoteCause}
    (h : call.read r = .error cause) : cause.IsUnreadable := by
  cases call with
  | lookup l =>
    cases l with
    | report => exact Reply.isUnreadable_of_report h
    | _ => exact Reply.isUnreadable_of_record h
  | change ch =>
    cases ch with
    | unregister | removeDeletionRecord | subscribe | unsubscribe => cases h
    | removeCustomInfo => exact Reply.isUnreadable_of_confirmation h
    | _ => exact Reply.isUnreadable_of_record h

/-- The cause why a reply is no answer has the exit code of the reply. -/
theorem Call.exitCode_of_answer {call : Call} {r : Reply} {cause : RemoteCause}
    (h : call.answer r = .error cause) (resource : String) :
    (RemoteFault.exitCode { resource, cause }).number = (Delivery.reply r).failureNumber := by
  cases status : isSuccess r.status with
  | true =>
    -- Only the content can be at fault.
    rw [answer_of_isSuccess status] at h
    obtain ⟨message, rfl⟩ := isUnreadable_of_read h
    have between : 200 ≤ r.status ∧ r.status < 300 := by simpa [isSuccess] using status
    rw [Delivery.failureNumber, if_neg (by omega), if_neg (by omega), if_pos status]
    rfl
  | false =>
    -- The status is the cause, whatever the content says.
    obtain ⟨refusal, hr⟩ := Reply.exists_refusal? status
    obtain rfl : refusal = cause := Except.error.inj ((answer_of_refusal hr).symm.trans h)
    rw [Reply.refusal?, if_neg (by simp [status])] at hr
    split at hr
    · next missing =>
      cases hr
      rw [Delivery.failureNumber, if_pos (show r.status = 404 from missing)]
      rfl
    · next present =>
      cases hr
      rw [Delivery.failureNumber, if_neg (show r.status ≠ 404 from present),
        if_neg (by simp [status] : ¬ isSuccess r.status = true)]
      change (if r.status = 401 ∨ r.status = 403 then ExitCode.notPermitted
        else .software).number = _
      split <;> rfl

/-- The words for a resource that is not there do not change the exit code. -/
theorem RemoteFault.exitCode_failure (fault : RemoteFault) {missing : Option Failure}
    (hm : ∀ failure, missing = some failure → failure.exitCode = .badData) :
    (fault.failure missing).exitCode = fault.exitCode := by
  cases missing with
  | none => rfl
  | some failure =>
    obtain ⟨resource, cause⟩ := fault
    cases cause with
    | notFound message => exact hm failure rfl
    | _ => rfl

/-- The fault of a turn without an answer has the exit code of what arrived. -/
theorem Connection.exitCode_of_receive {c : Connection} {call : Call} {d : Delivery}
    {fault : RemoteFault} (h : c.receive call d = .error fault) :
    fault.exitCode.number = d.failureNumber := by
  cases d with
  | nothing =>
    cases h
    rfl
  | reply r =>
    change (call.answer r).mapError _ = _ at h
    cases ha : call.answer r with
    | ok answer =>
      rw [ha] at h
      cases h
    | error cause =>
      rw [ha] at h
      cases h
      exact Call.exitCode_of_answer ha _

/-- A request that cannot go out ends as one that nobody answers. -/
theorem Connection.exitCode_of_obstacle? {c : Connection} {isListening : Bool} {r : Request}
    {fault : RemoteFault} (h : c.obstacle? isListening r = some fault) :
    fault.exitCode = .unavailable := by
  unfold obstacle? at h
  split at h
  · cases h
    rfl
  · split at h <;> cases h
    rfl

namespace Program

variable {α β : Type} {good : α → Prop} {c : Connection}

/-- Whatever it is answered, the program ends in a good result or with a failure of its data, or
of the file that it writes. -/
def EndsIn (good : α → Prop) : Program α → Prop
  | .done result => good result
  | .fail failure => failure.exitCode = .badData
  | .tell _ next => next.EndsIn good
  | .ask _ missing next =>
    (∀ failure, missing = some failure → failure.exitCode = .badData) ∧
      ∀ answer, (next answer).EndsIn good
  | .await _ _ next => ∀ ended, (next ended).EndsIn good
  | .save _ _ unwritable next => unwritable.exitCode = .cannotCreate ∧ next.EndsIn good

/-- The program ends by itself with any result. -/
abbrev Ends (p : Program α) : Prop :=
  p.EndsIn fun _ => True

theorem Ends.bind {p : Program α} {f : α → Program β} {good : β → Prop} (h : p.Ends)
    (hf : ∀ result, (f result).EndsIn good) : (p >>= f).EndsIn good := by
  change (p.bind f).EndsIn good
  -- Only where `p` is done does the result of `f` count; its failures are those of the whole.
  induction p with
  | done result => exact hf result
  | fail failure => exact h
  | tell message next ih => exact ih h
  | ask call missing next ih => exact ⟨h.1, fun answer => ih answer (h.2 answer)⟩
  | await task polling next ih => exact fun ended => ih ended (h ended)
  | save path bytes unwritable next ih => exact ⟨h.1, ih h.2⟩

theorem ends_look (l : Lookup) : (look l).Ends :=
  ⟨nofun, fun _ => trivial⟩

theorem ends_look_or {l : Lookup} {missing : Failure} (h : missing.exitCode = .badData) :
    (look l (some missing)).Ends :=
  ⟨fun _ hf => Option.some.inj hf ▸ h, fun _ => trivial⟩

theorem ends_change (ch : Change) : (change ch).Ends :=
  ⟨nofun, fun _ => trivial⟩

theorem ends_require {x : Except Failure α}
    (h : ∀ failure, x = .error failure → failure.exitCode = .badData) : (require x).Ends := by
  cases x with
  | ok result => trivial
  | error failure => exact h failure rfl

end Program

/-! ## Runs -/

/-- How a run ends, by what arrived for its requests. -/
inductive FailsFast {α : Type} (c : Connection) (isListening : Bool) (good : α → Prop) :
    List Turn → Except Failure α → Prop where
  /-- All requests are answered, and the run ends in a good result. -/
  | answered {turns : List Turn} {result : α} (succeeded : ∀ t ∈ turns, t.Succeeds)
      (ends : good result) : FailsFast c isListening good turns (.ok result)
  /-- All requests are answered, and the run ends by itself. -/
  | gaveUp {turns : List Turn} {failure : Failure} (succeeded : ∀ t ∈ turns, t.Succeeds)
      (code : failure.exitCode ∈ [.badData, .cannotCreate, .temporary]) :
      FailsFast c isListening good turns (.error failure)
  /-- The last request is not answered. -/
  | failed {turns : List Turn} {t : Turn} {failure : Failure} (succeeded : ∀ t ∈ turns, t.Succeeds)
      (fails : ¬ t.Succeeds) (code : failure.exitCode.number = t.delivery.failureNumber) :
      FailsFast c isListening good (turns ++ [t]) (.error failure)
  /-- All requests are answered but one that cannot go out. -/
  | kept {turns : List Turn} {call : Call} {fault : RemoteFault}
      (succeeded : ∀ t ∈ turns, t.Succeeds)
      (obstacle : c.obstacle? isListening call.request = some fault) :
      FailsFast c isListening good turns (.error (.remote fault))

namespace FailsFast

variable {α : Type} {good : α → Prop} {c : Connection} {isListening : Bool}
  {turns more : List Turn} {result : Except Failure α}

/-- Turns that succeeded may go before. -/
theorem append (h : ∀ t ∈ turns, t.Succeeds) (hm : FailsFast c isListening good more result) :
    FailsFast c isListening good (turns ++ more) result := by
  cases hm with
  | answered succeeded ends => exact .answered (List.forall_mem_append.mpr ⟨h, succeeded⟩) ends
  | gaveUp succeeded code => exact .gaveUp (List.forall_mem_append.mpr ⟨h, succeeded⟩) code
  | failed succeeded fails code =>
    rw [← List.append_assoc]
    exact .failed (List.forall_mem_append.mpr ⟨h, succeeded⟩) fails code
  | kept succeeded obstacle => exact .kept (List.forall_mem_append.mpr ⟨h, succeeded⟩) obstacle

/-- A run that ends with a failure could have come to any good result. -/
theorem of_error {failure : Failure} {β : Type} {better : β → Prop}
    (h : FailsFast c isListening good turns (.error failure)) :
    FailsFast c isListening better turns (.error failure) := by
  cases h with
  | gaveUp succeeded code => exact .gaveUp succeeded code
  | failed succeeded fails code => exact .failed succeeded fails code
  | kept succeeded obstacle => exact .kept succeeded obstacle

theorem succeeds_of_ok {found : α} (h : FailsFast c isListening good turns (.ok found)) :
    ∀ t ∈ turns, t.Succeeds := by
  cases h with
  | answered succeeded ends => exact succeeded

/-- A turn without an answer ends a run. -/
theorem of_receive_error {call : Call} {d : Delivery} {fault : RemoteFault}
    (h : c.receive call d = .error fault) {missing : Option Failure}
    (hm : ∀ failure, missing = some failure → failure.exitCode = .badData) :
    FailsFast c isListening good [c.turn call d] (.error (fault.failure missing)) := by
  have unanswered : ¬ (c.turn call d).Succeeds := by
    intro answered
    obtain ⟨answer, ha⟩ := Option.isSome_iff_exists.mp answered
    cases ha.symm.trans (Connection.answer?_of_receive_error h)
  refine @failed _ c _ _ [] _ _ (by simp) unanswered ?_
  rw [fault.exitCode_failure hm]
  exact Connection.exitCode_of_receive h

/-- A turn with an answer may go before. -/
theorem cons_of_receive {call : Call} {d : Delivery} {answer : call.Answer}
    (h : c.receive call d = .ok answer) (hm : FailsFast c isListening good more result) :
    FailsFast c isListening good (c.turn call d :: more) result := by
  refine @append _ _ _ _ [c.turn call d] _ _ ?_ hm
  intro t ht
  obtain rfl := List.mem_singleton.mp ht
  exact Option.isSome_iff_exists.mpr ⟨answer, Connection.receive_eq_ok_iff.mp h⟩

end FailsFast

namespace Connection

variable (c : Connection) (isListening : Bool) (task : String) (polling : Polling) (started : Nat)

theorem failsFast_watch_of_settles (ds : List Delivery)
    (h : (ds.getD 0 .nothing).settles task = true) (clock : Nat) :
    FailsFast c isListening (fun _ => True)
      (turnsOf (c.watch task polling started ds clock).events)
      (c.watch task polling started ds clock).result := by
  rw [watch_of_settles h, turnsOf_look]
  cases hs : c.snapshot task (ds.getD 0 .nothing) with
  | error fault => exact @FailsFast.of_receive_error _ _ _ _ _ _ _ hs none nofun
  | ok seen => exact .cons_of_receive hs (.answered (by simp) trivial)

/-- A watch fails fast. -/
theorem failsFast_watch (ds : List Delivery) (clock : Nat) :
    FailsFast c isListening (fun _ => True)
      (turnsOf (c.watch task polling started ds clock).events)
      (c.watch task polling started ds clock).result := by
  -- A look that does not settle the watch was answered, so that it may go before the rest.
  induction ds generalizing clock with
  | nil => exact c.failsFast_watch_of_settles isListening task polling started [] rfl clock
  | cons d ds ih =>
    cases settles : d.settles task with
    | true =>
      exact c.failsFast_watch_of_settles isListening task polling started (d :: ds) settles clock
    | false =>
      obtain ⟨seen, hs, -⟩ := exists_snapshot_of_not_settles (c := c) settles
      rw [watch_of_not_settles settles]
      split
      · -- The time is over, though the look was answered.
        rw [turnsOf_look]
        exact .cons_of_receive hs (.gaveUp (by simp) (by simp [Failure.exitCode]))
      · rw [Watch.after, turnsOf_append, turnsOf_append, turnsOf_look]
        exact .cons_of_receive hs (ih _)

end Connection

/-- A wait fails fast. -/
theorem Program.failsFast_waitFor (c : Connection) (task : String) (polling : Polling)
    (s : Surroundings) : FailsFast c s.network.isListening (fun _ => True)
      ((waitFor task polling).run c s).turns ((waitFor task polling).run c s).result := by
  cases ho : c.obstacle? s.network.isListening (Lookup.task task).request with
  | some fault =>
    rw [run_waitFor_of_obstacle ho]
    exact @FailsFast.kept _ _ _ _ _ (.lookup (.task task)) _
      (by simp [Ending.ofResult, Ending.turns]) ho
  | none =>
    rw [run_waitFor_of_no_obstacle ho]
    exact c.failsFast_watch _ _ _ _ _ _

/-- **A program that ends by itself only for its data fails fast.** -/
theorem Program.EndsIn.failsFast_run {α : Type} {good : α → Prop} {c : Connection}
    {p : Program α} (h : p.EndsIn good) (s : Surroundings) :
    FailsFast c s.network.isListening good (p.run c s).turns (p.run c s).result := by
  -- Induction on the program: it goes on only behind turns that succeeded, and these go before
  -- whatever the rest comes to.
  induction p generalizing s with
  | done result => exact .answered (by simp [run, Ending.turns]) h
  | fail failure =>
    exact .gaveUp (by simp [run, Ending.turns]) (by simp [show failure.exitCode = _ from h])
  | tell message next ih => simpa [run] using ih h s
  | ask call missing next ih =>
    rcases run_ask_cases (c := c) call missing next s with
      ⟨fault, ho, he⟩ | ⟨d, s', hl, ⟨fault, hr, he⟩ | ⟨answer, hr, he⟩⟩
    · rw [he]
      exact .kept (by simp [Ending.ofResult, Ending.turns]) ho
    · rw [he]
      exact .of_receive_error hr h.1
    · rw [he, Ending.turns_after, Ending.result_after]
      exact .cons_of_receive hr (hl ▸ ih answer (h.2 answer) s')
  | await task polling next ih =>
    have waited := failsFast_waitFor c task polling s
    have listening := (waitFor task polling).isListening_run (c := c) s
    rw [show await task polling next = waitFor task polling >>= next from rfl, run_bind]
    cases hw : ((waitFor task polling).run c s).result with
    | error failure =>
      rw [hw] at waited
      rw [Ending.turns_andThen_of_error hw, Ending.andThen_of_error hw]
      exact waited.of_error
    | ok ended =>
      rw [hw] at waited
      rw [Ending.turns_andThen_of_ok hw, Ending.andThen_of_ok hw]
      exact .append waited.succeeds_of_ok (listening ▸ ih ended (h ended) _)
  | save path bytes unwritable next ih =>
    simp only [run]
    cases s.files.write path bytes with
    | ok files => exact ih h.2 { s with files }
    | error fault => exact .gaveUp (by simp [Ending.turns]) (by simp [h.1])

end HostConsole
