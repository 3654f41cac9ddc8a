import HostConsole.Proofs.RemoteAction

/-!
# Confirmation

A reply with success does not yet say that a change came about. Each command that writes looks for
that in the content of the reply, by one of four rules: a record that is not blank, a text among
those attached, a removal that is not denied, or nothing at all.

What a command does behind the answer to its change is decided by its rule alone, and there it
asks for nothing more. So its run reports success exactly if the reply confirms the change.

## Main definitions

* `Reply.TellsRecord`, `Reply.TellsAttached`, `Reply.TellsRemoval`: the replies that confirm
* `ServerCommand.ConfirmedBy`: the rule of a command
* `Program.Concludes`: a program that looks things up, asks for a change and then only ends
* `ServerCommand.Reports`: what a run reports of a change that was answered

## Main results

* `Json.isTruthy_eq_false_iff`: the values that stand for no
* `Program.Concludes.run`: how such a program runs
* `ServerCommand.concludes`: every command that writes is such a program
* `Invocation.reports_run`: success is reported exactly for confirmed changes
-/

namespace HostConsole

/-! ## What a reply tells -/

/-- The values that stand for no. -/
inductive Json.IsVoid : Json → Prop where
  | null : IsVoid .null
  | no : IsVoid (.bool false)
  | zero : IsVoid (.number (.integer 0))
  | floatZero {x : Binary64} (h : x.mantissa = 0) : IsVoid (.number (.float x))
  | noText : IsVoid (.string "")
  | noItems : IsVoid (.array [])
  | noFields : IsVoid (.object [])

/-- A value with a meaning stands for yes unless it is void. -/
theorem Json.isTruthy_eq_false_iff {value : Json} (h : value ≠ .defect) :
    value.isTruthy = false ↔ value.IsVoid := by
  constructor
  · -- Of each kind there is one value that stands for no, and of the numbers there are more.
    intro untrue
    cases value with
    | null => exact .null
    | bool b =>
      obtain rfl : b = false := untrue
      exact .no
    | number n =>
      cases n with
      | integer n =>
        obtain rfl : n = 0 := by simpa [isTruthy] using untrue
        exact .zero
      | float x => exact .floatZero (by simpa [isTruthy, Binary64.isZero] using untrue)
    | string s =>
      obtain rfl : s = "" := by simpa [isTruthy] using untrue
      exact .noText
    | array items =>
      obtain rfl : items = [] := by simpa [isTruthy] using untrue
      exact .noItems
    | object fields =>
      obtain rfl : fields = [] := by simpa [isTruthy] using untrue
      exact .noFields
    | defect => exact absurd rfl h
  · rintro (_ | _ | _ | zero | _ | _ | _)
    case floatZero => simp [isTruthy, Binary64.isZero, zero]
    all_goals rfl

/-- A value that was read strictly has a meaning. -/
theorem Json.ne_defect_of_readStrict {text : List UInt8} {value : Json}
    (h : readStrict text = .ok value) : value ≠ .defect := by
  have normal {before : Json} : before.normal? ≠ some .defect := by
    cases before <;> simp [normal?]
  -- What is read counts only without a flaw, and then in its normal form.
  obtain ⟨⟨before, flaw⟩, -, h⟩ := exists_of_bind_eq_ok h
  rintro rfl
  dsimp only at h
  split at h
  · next found =>
    cases h
    exact normal found
  · cases h

namespace Reply

variable {r : Reply}

/-- The value that the content of a reply tells. What is wrong with a part of it does not count. -/
def value? (r : Reply) : Option Json :=
  r.content?.bind fun content => (Json.read content).toOption.map Prod.fst

/-- The text that the content of a reply stands for. -/
def text? (r : Reply) : Option String :=
  r.content?.map Utf8.textLossy

/-- The reply tells a record with a uuid or a name. -/
def TellsRecord (r : Reply) : Prop :=
  ∃ value machine, r.value? = some value ∧ Machine.ofJson? value = some machine ∧
    (machine.uuid ≠ "" ∨ machine.name ≠ "")

/-- The reply tells attached texts, and the text is one of those under the key. -/
def TellsAttached (key text : String) (r : Reply) : Prop :=
  ∃ value info texts, r.value? = some value ∧ CustomInfo.ofJson? value = some info ∧
    Dictionary.get? info key = some texts ∧ text ∈ texts

/-- The reply tells nothing, or a value that does not stand for no. -/
def TellsRemoval (r : Reply) : Prop :=
  ∃ text, r.text? = some text ∧ (Text.trimmed text = "" ∨
    ∃ value, Json.readStrict (Utf8.bytes text) = .ok value ∧ ¬ value.IsVoid)

/-- A content that is read as a record is the value of the reply. -/
theorem value?_of_record {α : Type} {reader : Json → Option α} {result : α}
    (h : r.record reader = .ok result) :
    ∃ value, r.value? = some value ∧ reader value = some result := by
  obtain ⟨content, hb, h⟩ := exists_of_bind_eq_ok h
  have hc : r.content? = some content := by
    unfold bytes at hb
    split at hb
    · next found =>
      cases hb
      exact found
    · cases hb
  cases hj : Json.read content with
  | error fault =>
    simp only [hj] at h
    cases h
  | ok read =>
    obtain ⟨value, flaw⟩ := read
    simp only [hj] at h
    split at h
    · next found =>
      cases h
      exact ⟨value, by simp [value?, hc, hj, Except.toOption], found⟩
    · cases h

/-- Only the value of the reply can tell a record. -/
theorem tellsRecord_iff_of_value? {value : Json} (hv : r.value? = some value) :
    r.TellsRecord ↔ ∃ machine, Machine.ofJson? value = some machine ∧
      (machine.uuid ≠ "" ∨ machine.name ≠ "") := by
  simp [TellsRecord, hv]

/-- A blank record is none, and neither is `null` nor what has no fields. -/
theorem not_tellsRecord {value : Json} (hv : r.value? = some value)
    (h : value = .null ∨ value = .object [] ∨ value = .array [] ∨
      ∃ machine, Machine.ofJson? value = some machine ∧ machine.uuid = "" ∧ machine.name = "") :
    ¬ r.TellsRecord := by
  rw [tellsRecord_iff_of_value? hv]
  rintro ⟨machine, hm, named⟩
  have blank : machine.uuid = "" ∧ machine.name = "" := by
    rcases h with rfl | rfl | rfl | ⟨other, ho, blank⟩
    · cases hm
    · cases hm
      exact ⟨rfl, rfl⟩
    · cases hm
      exact ⟨rfl, rfl⟩
    · obtain rfl : other = machine := Option.some.inj (ho.symm.trans hm)
      exact blank
  rcases named with uuid | name
  · exact uuid blank.1
  · exact name blank.2

/-- A record that was read confirms a write unless it is blank. -/
theorem tellsRecord_iff {record : Option Machine}
    (h : r.record (Json.optional? Machine.ofJson?) = .ok record) :
    r.TellsRecord ↔ ∃ machine, record = some machine ∧ machine.isBlankRecord = false := by
  obtain ⟨value, hv, h⟩ := value?_of_record h
  have named {machine : Machine} :
      machine.isBlankRecord = false ↔ machine.uuid ≠ "" ∨ machine.name ≠ "" := by
    simp [Machine.isBlankRecord, imp_iff_not_or]
  unfold Json.optional? at h
  split at h
  · -- null
    obtain rfl : none = record := Option.some.inj h
    constructor
    · exact fun told => absurd told (not_tellsRecord hv (.inl rfl))
    · rintro ⟨machine, none, -⟩
      cases none
  · -- a record, which is blank or not
    obtain ⟨machine, hm, rfl⟩ := Option.map_eq_some_iff.mp h
    rw [tellsRecord_iff_of_value? hv, hm]
    simp only [Option.some.injEq, exists_eq_left', named]

/-- Attached texts that were read confirm a write if they hold the text. -/
theorem tellsAttached_iff {info : CustomInfo} (h : r.record CustomInfo.ofJson? = .ok info)
    (key text : String) : r.TellsAttached key text ↔ info.holds key text = true := by
  obtain ⟨value, hv, h⟩ := value?_of_record h
  have told : r.TellsAttached key text ↔
      ∃ texts, Dictionary.get? info key = some texts ∧ text ∈ texts := by
    simp [TellsAttached, hv, h]
  rw [told]
  unfold CustomInfo.holds
  constructor
  · rintro ⟨texts, found, mem⟩
    simp only [found, List.contains_iff_mem]
    exact mem
  · intro holds
    split at holds
    · next texts found => exact ⟨texts, found, List.contains_iff_mem.mp holds⟩
    · cases holds

/-- A content that was looked at for a removal says yes exactly if it tells of one. -/
theorem tellsRemoval_iff {confirmed : Bool} (h : r.confirmation = .ok confirmed) :
    r.TellsRemoval ↔ confirmed = true := by
  obtain ⟨content, hb, h⟩ := exists_of_bind_eq_ok h
  have ht : r.text? = some (Utf8.textLossy content) := by
    unfold bytes at hb
    split at hb
    · next found =>
      cases hb
      simp [text?, found]
    · cases hb
  have told : r.TellsRemoval ↔ Text.trimmed (Utf8.textLossy content) = "" ∨
      ∃ value, Json.readStrict (Utf8.bytes (Utf8.textLossy content)) = .ok value ∧
        ¬ value.IsVoid := by
    simp [TellsRemoval, ht]
  rw [told]
  dsimp only at h
  split at h
  · -- no content
    next blank =>
    cases h
    exact iff_of_true (.inl blank) rfl
  · next full =>
    split at h
    · -- a value, which has a meaning because it was read strictly
      next value found =>
      cases h
      have truth := Json.isTruthy_eq_false_iff (Json.ne_defect_of_readStrict found)
      constructor
      · rintro (blank | ⟨other, ho, sound⟩)
        · exact absurd blank full
        · obtain rfl : other = value := Except.ok.inj (ho.symm.trans found)
          exact Bool.eq_true_of_not_eq_false fun untrue => sound (truth.mp untrue)
      · intro truthy
        refine .inr ⟨value, found, fun void => ?_⟩
        rw [truth.mpr void] at truthy
        cases truthy
    · cases h

end Reply

/-! ## Programs that end with a change

What may stand before the change tells nothing and asks for no change, so that whatever it comes
to leaves neither a change nor a message behind. -/

namespace Program

variable {α β : Type} {asks : Change → Prop} {ends : Reply → Program α → Prop} {c : Connection}

/-- Behind lookups the program asks for a change of some kind, and what it goes on with behind the
reply is one of the ends. -/
def Concludes (asks : Change → Prop) (ends : Reply → Program α → Prop) : Program α → Prop
  | .done _ | .tell _ _ | .await _ _ _ => False
  | .fail _ => True
  | .ask (.lookup _) _ next => ∀ answer, (next answer).Concludes asks ends
  | .ask (.change ch) _ next =>
    asks ch ∧ ∀ r answer, ch.read r = .ok answer → ends r (next answer)
  | .save _ _ _ next => next.Concludes asks ends

theorem Concludes.bind {p : Program α} {f : α → Program β} {more : Reply → Program β → Prop}
    (h : p.Concludes asks ends) (hf : ∀ r rest, ends r rest → more r (rest >>= f)) :
    (p >>= f).Concludes asks more := by
  change (p.bind f).Concludes asks more
  -- Only what stands behind the change is followed by `f`; what stands before it stays as it is.
  induction p with
  | done result => exact h.elim
  | fail failure => trivial
  | tell message next ih => exact h.elim
  | ask call missing next ih =>
    cases call with
    | lookup l => exact fun answer => ih answer (h answer)
    | change ch => exact ⟨h.1, fun r answer read => hf r _ (h.2 r answer read)⟩
  | await task polling next ih => exact h.elim
  | save path bytes unwritable next ih => exact ih h

/-- Lookups may go before. -/
theorem Concludes.of_inquires {p : Program β} {f : β → Program α} (h : p.Inquires)
    (silent : p.IsSilent) (hf : ∀ result, (f result).Concludes asks ends) :
    (p >>= f).Concludes asks ends := by
  change (p.bind f).Concludes asks ends
  -- Each step of `p` is a lookup or leaves no trace.
  induction p with
  | done result => exact hf result
  | fail failure => trivial
  | tell message next ih => exact silent.elim
  | ask call missing next ih =>
    cases call with
    | lookup l => exact fun answer => ih answer (h answer) (silent answer)
    | change ch => exact h.1.elim
  | await task polling next ih => exact h.elim
  | save path bytes unwritable next ih => exact ih h silent

/-- An answer stands in a reply that the call reads. -/
theorem exists_reply_of_receive {call : Call} {d : Delivery} {answer : call.Answer}
    (h : c.receive call d = .ok answer) : ∃ r, d = .reply r ∧ call.read r = .ok answer := by
  cases d with
  | nothing => cases h
  | reply r =>
    refine ⟨r, rfl, ?_⟩
    rw [Connection.receive_eq_ok_iff, Delivery.answer?, Call.answer] at h
    split at h
    · cases h
    · cases hc : call.read r with
      | ok found =>
        rw [hc] at h
        rw [Option.some.inj h]
      | error cause =>
        rw [hc] at h
        cases h

/-- How a program runs that ends with a change. -/
inductive Concluded (asks : Change → Prop) (ends : Reply → Program α → Prop) (c : Connection)
    (e : Ending α) : Prop where
  /-- No change is answered, and nothing is told. -/
  | failed {failure : Failure} (result : e.result = .error failure) (silent : e.messages = [])
      (unanswered : ∀ t ∈ e.turns, ∀ ch, t.call = .change ch → asks ch ∧ ¬ t.Succeeds)
  /-- A change is answered, and the rest of the run is that of an end. -/
  | answered {looks : List Turn} {ch : Change} {r : Reply} {rest : Program α} {s : Surroundings}
      (asked : asks ch) (ending : ends r rest)
      (turns : e.turns = looks ++ c.turn (.change ch) (.reply r) :: (rest.run c s).turns)
      (looked : ∀ t ∈ looks, t.IsLookup) (result : e.result = (rest.run c s).result)
      (messages : e.messages = (rest.run c s).messages)

theorem Concluded.after {e : Ending α} {l : Lookup} {d : Delivery}
    (h : Concluded asks ends c e) :
    Concluded asks ends c (e.after [.sent (c.turn (.lookup l) d)]) := by
  have look : (c.turn (.lookup l) d).IsLookup := ⟨l, rfl⟩
  cases h with
  | failed result silent unanswered =>
    refine .failed result ((Ending.messages_after _ e).trans silent) ?_
    rw [Ending.turns_after]
    intro t ht ch hc
    rcases List.mem_cons.mp ht with rfl | ht
    · cases hc
    · exact unanswered t ht ch hc
  | answered asked ending turns looked result messages =>
    refine .answered asked ending ?_ (List.forall_mem_cons.mpr ⟨look, looked⟩) result ?_
    · rw [Ending.turns_after, turns]
      rfl
    · exact (Ending.messages_after _ e).trans messages

/-- **A program that ends with a change** runs up to it without telling anything. -/
theorem Concludes.run {p : Program α} (h : p.Concludes asks ends) (s : Surroundings) :
    Concluded asks ends c (p.run c s) := by
  -- Induction on the program: a lookup goes before whatever the rest comes to.
  induction p generalizing s with
  | done result => exact h.elim
  | fail failure => exact .failed rfl rfl (by simp [Program.run, Ending.turns])
  | tell message next ih => exact h.elim
  | ask call missing next ih =>
    rcases run_ask_cases (c := c) call missing next s with
      ⟨fault, -, he⟩ | ⟨d, s', -, ⟨fault, hr, he⟩ | ⟨answer, hr, he⟩⟩
    · -- The request could not go out.
      rw [he]
      exact .failed rfl rfl (by simp [Ending.ofResult, Ending.turns])
    · -- It went out, but what arrived was no answer.
      rw [he]
      refine .failed rfl rfl fun t ht ch hc => ?_
      obtain rfl : t = c.turn call d := by simpa [Ending.turns] using ht
      obtain rfl : call = .change ch := hc
      refine ⟨h.1, fun succeeds => ?_⟩
      have unanswered : d.answer? (.change ch) = none := Connection.answer?_of_receive_error hr
      simp [Turn.Succeeds, Connection.turn, unanswered] at succeeds
    · rw [he]
      cases call with
      | lookup l => exact (ih answer (h answer) s').after
      | change ch =>
        obtain ⟨r, rfl, read⟩ := exists_reply_of_receive hr
        refine @Concluded.answered _ _ _ _ _ [] _ _ _ s' h.1 (h.2 r answer read) ?_ (by simp) rfl ?_
        · rw [Ending.turns_after]
          rfl
        · exact Ending.messages_after _ _
  | await task polling next ih => exact h.elim
  | save path bytes unwritable next ih =>
    simp only [Program.run]
    cases s.files.write path bytes with
    | ok files => exact ih h _
    | error fault => exact .failed rfl rfl (by simp [Ending.turns])

/-! ### The ends by a rule -/

/-- The rest is what was granted if the reply confirms the change, and what was refused if not. -/
def Rules (confirmed : Reply → Prop) (granted refused : Program α → Prop) (r : Reply)
    (rest : Program α) : Prop :=
  (confirmed r ∧ granted rest) ∨ (¬ confirmed r ∧ refused rest)

theorem Rules.bind {confirmed : Reply → Prop} {granted refused : Program α → Prop}
    {good bad : Program β → Prop} {r : Reply} {rest : Program α} {f : α → Program β}
    (h : Rules confirmed granted refused r rest) (hg : granted rest → good (rest >>= f))
    (hr : refused rest → bad (rest >>= f)) : Rules confirmed good bad r (rest >>= f) := by
  rcases h with ⟨told, granted⟩ | ⟨untold, refused⟩
  · exact .inl ⟨told, hg granted⟩
  · exact .inr ⟨untold, hr refused⟩

/-- The program has a result and does nothing more. -/
def IsDone (p : Program α) : Prop :=
  ∃ result, p = done result

/-- The program ends because the server did not make the change. -/
def IsRejection (p : Program α) : Prop :=
  ∃ action name, p = fail (.recordRejected action name)

theorem IsRejection.bind {p : Program α} {f : α → Program β} (h : p.IsRejection) :
    (p >>= f).IsRejection := by
  obtain ⟨action, name, rfl⟩ := h
  exact ⟨action, name, rfl⟩

theorem isSilent_require (x : Except Failure α) : (require x).IsSilent := by
  cases x <;> trivial

end Program

/-! ## The operations -/

open Program

theorem Resolution.isSilent_listedSystem (org : String) (reference : SystemReference) :
    (listedSystem org reference).IsSilent :=
  (isSilent_look _ _).bind fun _ => isSilent_require _

theorem Resolution.isSilent_uuid (org : String) (reference : SystemReference) :
    (uuid org reference).IsSilent := by
  cases reference with
  | uuid uuid => trivial
  | name name => exact (isSilent_system org (.name name) none).bind fun _ => trivial

namespace Systems

variable (org : String) (reference : SystemReference) (environment : Option String)

theorem isSilent_environmentId : (environmentId org environment).IsSilent := by
  cases environment with
  | none => trivial
  | some name => exact (Resolution.isSilent_environment org (some name)).bind fun _ => trivial

/-- A write of a record is done if the reply tells a record, and rejected if not. -/
theorem rules_confirmed {r : Reply} {record : Option Machine}
    (h : r.record (Json.optional? Machine.ofJson?) = .ok record) (action name : String) :
    Rules Reply.TellsRecord IsDone IsRejection r (require (confirmed record action name)) := by
  have told := Reply.tellsRecord_iff h
  unfold confirmed
  cases record with
  | none =>
    refine .inr ⟨fun tells => ?_, action, name, rfl⟩
    obtain ⟨machine, none, -⟩ := told.mp tells
    cases none
  | some machine =>
    cases hb : machine.isBlankRecord with
    | false => exact .inl ⟨told.mpr ⟨machine, rfl, hb⟩, machine, by simp [hb, require]⟩
    | true =>
      refine .inr ⟨fun tells => ?_, action, name, by simp [hb, require]⟩
      obtain ⟨other, same, unlike⟩ := told.mp tells
      obtain rfl : machine = other := Option.some.inj same
      cases hb.symm.trans unlike

theorem concludes_register (request : RegisterRequest) :
    (register request).Concludes (fun _ => True) (Rules Reply.TellsRecord IsDone IsRejection) :=
  .of_inquires (inquires_environmentId _ _) (isSilent_environmentId _ _)
    fun _ => ⟨trivial, fun _ _ read => rules_confirmed read _ _⟩

theorem concludes_unregister : (unregister org reference environment).Concludes
    (fun ch => (Call.change ch).IgnoresContent) (Rules (fun _ => True) IsDone IsRejection) :=
  .of_inquires (Resolution.inquires_system _ _ _) (Resolution.isSilent_system _ _ _)
    fun machine => ⟨trivial, fun _ _ _ => .inl ⟨trivial, machine, rfl⟩⟩

theorem concludes_update (changes : Changes) : (update org reference environment changes).Concludes
    (fun _ => True) (Rules Reply.TellsRecord IsDone IsRejection) := by
  apply Concludes.of_inquires (Resolution.inquires_system _ _ _) (Resolution.isSilent_system _ _ _)
  intro machine
  apply Concludes.of_inquires (inquires_environmentId _ _) (isSilent_environmentId _ _)
  intro environmentId
  refine ⟨trivial, fun r record read => ?_⟩
  have ruled := rules_confirmed read "update" machine.name
  refine ruled.bind ?_ IsRejection.bind
  rintro ⟨updated, done⟩
  exact ⟨machine, by rw [done]; rfl⟩

end Systems

namespace Membership

variable (org : String) (reference : SystemReference) (names : List String)

theorem inquires_groupIds : (groupIds org names).Inquires :=
  (inquires_look _ _).bind fun _ => inquires_require _

theorem isSilent_groupIds : (groupIds org names).IsSilent :=
  (isSilent_look _ _).bind fun _ => isSilent_require _

theorem concludes_join : (join org reference names).Concludes
    (fun _ => True) (Rules Reply.TellsRecord IsDone IsRejection) := by
  apply Concludes.of_inquires (Resolution.inquires_listedSystem _ _)
    (Resolution.isSilent_listedSystem _ _)
  intro machine
  apply Concludes.of_inquires (inquires_groupIds _ _) (isSilent_groupIds _ _)
  intro groups
  exact ⟨trivial, fun _ _ read => Systems.rules_confirmed read _ _⟩

theorem concludes_leave : (leave org reference names).Concludes
    (fun _ => True) (Rules Reply.TellsRecord IsDone IsRejection) := by
  apply Concludes.of_inquires (Resolution.inquires_listedSystem _ _)
    (Resolution.isSilent_listedSystem _ _)
  intro machine
  apply Concludes.of_inquires (inquires_groupIds _ _) (isSilent_groupIds _ _)
  intro groups
  exact ⟨trivial, fun _ _ read => Systems.rules_confirmed read _ _⟩

end Membership

namespace CustomInfo

variable (machine : Machine) (key : String)

/-- An answer that says whether the change came about is a rule. -/
theorem rules_answer {confirmed : Reply → Prop} {r : Reply} {told : Bool}
    (h : confirmed r ↔ told = true) :
    Rules confirmed (· = done true) (· = done false) r (done told) := by
  cases told with
  | true => exact .inl ⟨h.mpr rfl, rfl⟩
  | false => exact .inr ⟨fun tells => Bool.false_ne_true (h.mp tells), rfl⟩

theorem concludes_add (value : String) : (add machine key value).Concludes
    (fun _ => True) (Rules (Reply.TellsAttached key value) (· = done true) (· = done false)) :=
  ⟨trivial, fun _ _ read => rules_answer (Reply.tellsAttached_iff read key value)⟩

theorem concludes_update (current new : String) : (update machine key current new).Concludes
    (fun _ => True) (Rules (Reply.TellsAttached key new) (· = done true) (· = done false)) :=
  ⟨trivial, fun _ _ read => rules_answer (Reply.tellsAttached_iff read key new)⟩

theorem concludes_remove (value : Option String) : (remove machine key value).Concludes
    (fun _ => True) (Rules Reply.TellsRemoval (· = done true) (· = done false)) :=
  ⟨trivial, fun _ _ read => rules_answer (Reply.tellsRemoval_iff read)⟩

end CustomInfo

/-! ## The commands -/

namespace Program

/-- The program tells of a deed, and that is all. -/
def Boasts (deed : String) (p : Program ExitCode) : Prop :=
  ∃ text, p = succeed ("Successfully " ++ deed ++ text)

/-- The program tells of what could not be done, and that is all. -/
def Regrets (p : Program ExitCode) : Prop :=
  ∃ text, p = disappoint ("Could not " ++ text)

theorem boasts_succeed {deed whole : String} (h : whole = "Successfully " ++ deed)
    (name : String) : (succeed (whole ++ name ++ " ]")).Boasts deed :=
  ⟨name ++ " ]", by rw [h, String.append_assoc]⟩

theorem regrets_disappoint {whole : String} (verb : String) (h : whole = "Could not " ++ verb)
    (what : String) : (disappoint (whole ++ what)).Regrets :=
  ⟨verb ++ what, by rw [h, String.append_assoc]⟩

theorem IsDone.boasts {α : Type} {p : Program α} {f : α → Program ExitCode} {deed : String}
    (h : p.IsDone) (hf : ∀ result, (f result).Boasts deed) : (p >>= f).Boasts deed := by
  obtain ⟨result, rfl⟩ := h
  exact hf result

end Program

namespace ServerCommand

/-- What a command that writes says it has done, up to where its own data begin. -/
def deed? : ServerCommand → Option String
  | register .. => some "registered system [ "
  | unregister .. => some "unregistered System [ "
  | removeDeletion _ => some "removed deletion record for hypervisor with uuid [ "
  | subscribe .. => some "subscribed System [ "
  | unsubscribe .. => some "unsubscribed System [ "
  | update .. => some "updated system [ "
  | addSystemGroups .. => some "added system groups to system [ "
  | removeSystemGroups .. => some "removed system groups from system [ "
  | addCustomInfo .. => some "added Custom Information [ "
  | updateCustomInfo .. => some "updated Custom Information for System [ "
  | removeCustomInfo .. => some "removed Custom Information from System [ "
  | _ => none

/-- Does the command write a record, so that the reply has to tell one? -/
def writesRecord : ServerCommand → Bool
  | register .. | update .. | addSystemGroups .. | removeSystemGroups .. => true
  | _ => false

/-- The reply confirms the change that the command asks for. -/
def ConfirmedBy (r : Reply) : ServerCommand → Prop
  | register .. | update .. | addSystemGroups .. | removeSystemGroups .. => r.TellsRecord
  | addCustomInfo _ _ key value => r.TellsAttached key value
  | updateCustomInfo _ _ key _ new => r.TellsAttached key new
  | removeCustomInfo .. => r.TellsRemoval
  | _ => True

/-- Does the command go by the status of the reply alone? -/
def goesByStatus : ServerCommand → Bool
  | unregister .. | removeDeletion _ | subscribe .. | unsubscribe .. => true
  | _ => false

/-- The kind of change that the command asks for, as far as the content of the reply matters. -/
def Asks (ch : Change) : ServerCommand → Prop
  | unregister .. | removeDeletion _ | subscribe .. | unsubscribe .. =>
    (Call.change ch).IgnoresContent
  | _ => True

/-- What the command does about a change that is not confirmed. -/
def Refuses (p : Program ExitCode) : ServerCommand → Prop
  | addCustomInfo .. | updateCustomInfo .. | removeCustomInfo .. => p.Regrets
  | _ => p.IsRejection

end ServerCommand

namespace Session

variable {s : Session} {system : Selector} {environment : Option String}
  {program : Program ExitCode}

/-- The end of a command that goes by an answer of yes or no. -/
theorem rules_verdict {confirmed : Reply → Prop} {r : Reply} {rest : Program Bool}
    {deed success failure : String}
    (h : Rules confirmed (· = done true) (· = done false) r rest)
    (good : (succeed success).Boasts deed) (bad : (disappoint failure).Regrets) :
    Rules confirmed (Boasts deed) Regrets r
      (rest >>= fun came => if came then succeed success else disappoint failure) := by
  refine h.bind ?_ ?_
  · rintro rfl
    exact good
  · rintro rfl
    exact bad

theorem concludes_register {name : String} {org serviceLevel release : Option String}
    {activationKeys facts : List String}
    (h : s.register name org environment serviceLevel activationKeys release facts =
      .ok program) :
    program.Concludes (fun _ => True)
      (Rules Reply.TellsRecord (Boasts "registered system [ ") IsRejection) := by
  obtain ⟨org, -, hn⟩ := exists_of_bind_eq_ok h
  cases hn
  refine (Systems.concludes_register _).bind fun r rest ruled => ruled.bind ?_ IsRejection.bind
  exact fun done => done.boasts fun _ => boasts_succeed rfl name

theorem concludes_unregister (h : s.unregister system environment = .ok program) :
    program.Concludes (fun ch => (Call.change ch).IgnoresContent)
      (Rules (fun _ => True) (Boasts "unregistered System [ ") IsRejection) := by
  obtain ⟨org, reference, -, hn⟩ := exists_target h
  cases hn
  refine (Systems.concludes_unregister org reference environment).bind
    fun r rest ruled => ruled.bind ?_ IsRejection.bind
  exact fun done => done.boasts fun _ => boasts_succeed rfl _

theorem concludes_removeDeletion {uuid : String} (h : removeDeletion uuid = .ok program) :
    program.Concludes (fun ch => (Call.change ch).IgnoresContent) (Rules (fun _ => True)
      (Boasts "removed deletion record for hypervisor with uuid [ ") IsRejection) := by
  cases h
  exact ⟨trivial, fun _ _ _ => .inl ⟨trivial, boasts_succeed rfl uuid⟩⟩

theorem concludes_subscribe {pool : String} {quantity : Nat}
    (h : s.subscribe system pool quantity = .ok program) :
    program.Concludes (fun ch => (Call.change ch).IgnoresContent)
      (Rules (fun _ => True) (Boasts "subscribed System [ ") IsRejection) := by
  obtain ⟨org, reference, -, hn⟩ := exists_target h
  cases hn
  exact .of_inquires (Resolution.inquires_uuid _ _) (Resolution.isSilent_uuid _ _)
    fun uuid => ⟨trivial, fun _ _ _ => .inl ⟨trivial, boasts_succeed rfl _⟩⟩

theorem concludes_unsubscribe {entitlement serial : Option String} {all : Bool}
    (h : s.unsubscribe system entitlement serial all = .ok program) :
    program.Concludes (fun ch => (Call.change ch).IgnoresContent)
      (Rules (fun _ => True) (Boasts "unsubscribed System [ ") IsRejection) := by
  obtain ⟨what, -, ht⟩ := exists_of_bind_eq_ok h
  obtain ⟨org, reference, -, hn⟩ := exists_target ht
  cases hn
  exact .of_inquires (Resolution.inquires_uuid _ _) (Resolution.isSilent_uuid _ _)
    fun uuid => ⟨trivial, fun _ _ _ => .inl ⟨trivial, boasts_succeed rfl _⟩⟩

theorem concludes_update {changes : Systems.Changes}
    (h : s.update system environment changes = .ok program) :
    program.Concludes (fun _ => True)
      (Rules Reply.TellsRecord (Boasts "updated system [ ") IsRejection) := by
  obtain ⟨org, reference, -, hn⟩ := exists_target h
  cases hn
  refine (Systems.concludes_update org reference environment changes).bind
    fun r rest ruled => ruled.bind ?_ IsRejection.bind
  exact fun done => done.boasts fun _ => boasts_succeed rfl _

theorem concludes_addSystemGroups {groups : List String}
    (h : s.systemGroups system groups true = .ok program) :
    program.Concludes (fun _ => True)
      (Rules Reply.TellsRecord (Boasts "added system groups to system [ ") IsRejection) := by
  obtain ⟨org, reference, -, hn⟩ := exists_target h
  obtain ⟨names, -, hn⟩ := exists_of_bind_eq_ok hn
  cases hn
  refine (Membership.concludes_join org reference names).bind
    fun r rest ruled => ruled.bind ?_ IsRejection.bind
  exact fun done => done.boasts fun _ => boasts_succeed rfl _

theorem concludes_removeSystemGroups {groups : List String}
    (h : s.systemGroups system groups false = .ok program) :
    program.Concludes (fun _ => True)
      (Rules Reply.TellsRecord (Boasts "removed system groups from system [ ") IsRejection) := by
  obtain ⟨org, reference, -, hn⟩ := exists_target h
  obtain ⟨names, -, hn⟩ := exists_of_bind_eq_ok hn
  cases hn
  refine (Membership.concludes_leave org reference names).bind
    fun r rest ruled => ruled.bind ?_ IsRejection.bind
  exact fun done => done.boasts fun _ => boasts_succeed rfl _

theorem concludes_addCustomInfo {key value : String}
    (h : s.addCustomInfo system environment key value = .ok program) :
    program.Concludes (fun _ => True) (Rules (Reply.TellsAttached key value)
      (Boasts "added Custom Information [ ") Regrets) := by
  obtain ⟨org, reference, -, hn⟩ := exists_target h
  cases hn
  apply Concludes.of_inquires (Resolution.inquires_system _ _ _) (Resolution.isSilent_system _ _ _)
  intro machine
  have what (begun : String) :
      begun ++ (" Custom Information [ " ++ key ++ " : " ++ value ++ " ] to System [ " ++
          reference.text ++ " ]") =
        begun ++ " Custom Information [ " ++ (key ++ " : " ++ value ++ " ] to System [ " ++
          reference.text ++ " ]") := by
    simp only [String.append_assoc]
  exact (CustomInfo.concludes_add machine key value).bind fun r rest ruled =>
    rules_verdict ruled ⟨_, congrArg succeed (what _)⟩ (regrets_disappoint "add" rfl _)

theorem concludes_updateCustomInfo {key current new : String}
    (h : s.updateCustomInfo system environment key current new = .ok program) :
    program.Concludes (fun _ => True) (Rules (Reply.TellsAttached key new)
      (Boasts "updated Custom Information for System [ ") Regrets) := by
  obtain ⟨org, reference, -, hn⟩ := exists_target h
  cases hn
  apply Concludes.of_inquires (Resolution.inquires_system _ _ _) (Resolution.isSilent_system _ _ _)
  intro machine
  have what (begun : String) :
      begun ++ (" Custom Information for System [ " ++ reference.text ++ " ]") =
        begun ++ " Custom Information for System [ " ++ (reference.text ++ " ]") := by
    simp only [String.append_assoc]
  exact (CustomInfo.concludes_update machine key current new).bind fun r rest ruled =>
    rules_verdict ruled ⟨_, congrArg succeed (what _)⟩ (regrets_disappoint "update" rfl _)

theorem concludes_removeCustomInfo {key : String} {value : Option String}
    (h : s.removeCustomInfo system environment key value = .ok program) :
    program.Concludes (fun _ => True) (Rules Reply.TellsRemoval
      (Boasts "removed Custom Information from System [ ") Regrets) := by
  obtain ⟨org, reference, -, hn⟩ := exists_target h
  cases hn
  apply Concludes.of_inquires (Resolution.inquires_system _ _ _) (Resolution.isSilent_system _ _ _)
  intro machine
  have what (begun : String) :
      begun ++ (" Custom Information from System [ " ++ reference.text ++ " ]") =
        begun ++ " Custom Information from System [ " ++ (reference.text ++ " ]") := by
    simp only [String.append_assoc]
  exact (CustomInfo.concludes_remove machine key value).bind fun r rest ruled =>
    rules_verdict ruled ⟨_, congrArg succeed (what _)⟩ (regrets_disappoint "remove" rfl _)

end Session

/-- **The program of every command that writes** ends by the rule of the command. -/
theorem ServerCommand.concludes {s : Session} {command : ServerCommand}
    {program : Program ExitCode} {deed : String} (h : command.prepare s = .ok program)
    (hd : command.deed? = some deed) : program.Concludes (fun ch => command.Asks ch)
      (Rules (fun r => command.ConfirmedBy r) (Boasts deed) fun p => command.Refuses p) := by
  cases command with
  | register =>
    cases hd
    exact Session.concludes_register h
  | unregister =>
    cases hd
    exact Session.concludes_unregister h
  | removeDeletion =>
    cases hd
    exact Session.concludes_removeDeletion h
  | subscribe =>
    cases hd
    exact Session.concludes_subscribe h
  | unsubscribe =>
    cases hd
    exact Session.concludes_unsubscribe h
  | update =>
    cases hd
    exact Session.concludes_update h
  | addSystemGroups =>
    cases hd
    exact Session.concludes_addSystemGroups h
  | removeSystemGroups =>
    cases hd
    exact Session.concludes_removeSystemGroups h
  | addCustomInfo =>
    cases hd
    exact Session.concludes_addCustomInfo h
  | updateCustomInfo =>
    cases hd
    exact Session.concludes_updateCustomInfo h
  | removeCustomInfo =>
    cases hd
    exact Session.concludes_removeCustomInfo h
  | _ => cases hd

/-! ## Runs of commands -/

theorem Failure.exitCode_ne_ok (failure : Failure) : failure.exitCode ≠ .ok := by
  cases failure with
  | remote fault =>
    obtain ⟨resource, cause⟩ := fault
    cases cause with
    | status code message =>
      change (if code = 401 ∨ code = 403 then ExitCode.notPermitted else .software) ≠ .ok
      split <;> decide
    | _ => exact nofun
  | _ => exact nofun

theorem ExitCode.number_eq_zero_iff {code : ExitCode} : code.number = 0 ↔ code = .ok := by
  cases code <;> decide

/-- What a run says about its deed: the deed and nothing else in a run that ends well, and in any
other run at most that it could not be done. -/
inductive Ending.Says (deed : String) (e : Ending ExitCode) : Prop where
  | done {text : String} (code : e.exitCode = .ok)
      (told : e.messages = [.success ("Successfully " ++ deed ++ text)])
  | undone (code : e.exitCode ≠ .ok)
      (told : e.messages = [] ∨ ∃ text, e.messages = [.failure ("Could not " ++ text)])

/-- The fourth character of a line: that of its colour where colours are on. -/
theorem Text.getElem?_paint (colors : Bool) (style : Style) (text : String) :
    (paint colors style text ++ "\n").toList[3]? =
      if colors then style.sequence[3]? else (text ++ "\n").toList[3]? := by
  cases colors with
  | false => rfl
  | true =>
    simp only [paint, if_true, String.toList_append, String.toList_ofList, Style.apply,
      List.append_assoc]
    cases style <;> rfl

/-- No line about what could not be done is one about what was done. -/
theorem Output.Message.render_failure_ne (colors : Bool) (text deed : String) :
    (failure ("Could not " ++ text)).render colors ≠
      (success ("Successfully " ++ deed)).render colors := by
  intro same
  have character := congrArg (fun line => line.toList[3]?) same
  simp only [render, Text.getElem?_paint] at character
  cases colors with
  | false =>
    simp only [String.toList_append, List.append_assoc] at character
    cases character
  | true => cases character

/-- The line about the deed is put out exactly by a run that ends well. -/
theorem Ending.Says.output_iff {deed : String} {e : Ending ExitCode} (h : e.Says deed)
    (colors : Bool) : e.exitCode.number = 0 ↔ ∃ text, e.output colors =
      (Output.Message.success ("Successfully " ++ deed ++ text)).render colors := by
  have single (message : Output.Message) :
      String.join ([message].map (Output.Message.render colors)) = message.render colors := by
    simp
  rw [ExitCode.number_eq_zero_iff, e.output_eq]
  cases h with
  | @done text code told =>
    rw [told, single]
    exact iff_of_true code ⟨text, rfl⟩
  | undone code told =>
    refine iff_of_false code ?_
    rintro ⟨deeds, put⟩
    rcases told with told | ⟨text, told⟩
    · rw [told] at put
      exact absurd put.symm (by simp [Output.Message.render])
    · rw [told, single, String.append_assoc] at put
      exact Output.Message.render_failure_ne colors text _ put

/-- What a run reports of a change that was answered by a reply. -/
structure ServerCommand.Reports (command : ServerCommand) (r : Reply) (e : Ending ExitCode) :
    Prop where
  /-- The exit code is that of success exactly if the reply confirms the change. -/
  succeeds_iff : e.exitCode.number = 0 ↔ command.ConfirmedBy r
  /-- Else it is that of wrong data. -/
  refused : ¬ command.ConfirmedBy r → e.exitCode.number = 65
  /-- A write of a record is rejected where the reply tells none. -/
  rejected : command.writesRecord = true → ¬ r.TellsRecord →
    ∃ action name, e.result = .error (.recordRejected action name)
  /-- A reply tells no record with `null`, with no fields, or with a blank record. -/
  blank : ∀ value, r.value? = some value →
    (value = .null ∨ value = .object [] ∨ value = .array [] ∨
      ∃ machine, Machine.ofJson? value = some machine ∧ machine.uuid = "" ∧ machine.name = "") →
    ¬ r.TellsRecord

/-- A reply with success that the call reads answers it. -/
theorem Turn.succeeds_of_read {t : Turn} {call : Call} {r : Reply} {answer : call.Answer}
    (hc : t.call = call) (hr : t.delivery = .reply r) (status : isSuccess r.status = true)
    (read : call.read r = .ok answer) : t.Succeeds := by
  subst hc
  rw [Succeeds, hr, Delivery.answer?, Call.answer_of_isSuccess status, read]
  rfl

namespace Program

variable {command : ServerCommand} {c : Connection} {r : Reply} {p : Program ExitCode}
  {deed : String}

/-- Where a change is not confirmed, a command rejects the record or tells what could not be
done. -/
theorem isRejection_or_regrets (h : command.Refuses p) :
    p.IsRejection ∨ p.Regrets ∧ command.writesRecord = false := by
  cases command with
  | addCustomInfo | updateCustomInfo | removeCustomInfo => exact .inr ⟨h, rfl⟩
  | _ => exact .inl h

/-- The ending of a program that does by the rule of a command what the reply calls for. -/
theorem reports_run_of_rules
    (h : Rules (fun r => command.ConfirmedBy r) (Boasts deed) (fun p => command.Refuses p) r p)
    {s : Surroundings} {e : Ending ExitCode} (result : e.result = (p.run c s).result)
    (messages : e.messages = (p.run c s).messages) :
    (p.run c s).turns = [] ∧ e.Says deed ∧ command.Reports r e := by
  have blank {value : Json} := @Reply.not_tellsRecord r value
  rcases h with ⟨told, text, rfl⟩ | ⟨untold, refused⟩
  · -- The change is confirmed, and the deed is told.
    have code : e.exitCode = .ok := by rw [Ending.exitCode, result]; rfl
    refine ⟨rfl, .done code messages, ?_, fun untold => absurd told untold, ?_, fun _ => blank⟩
    · exact iff_of_true (congrArg ExitCode.number code) told
    · intro writes untold
      cases command <;> first | exact absurd told untold | cases writes
  · -- It is not: a record is rejected, and a text is told not to be there or not to be gone.
    have codes : e.exitCode = .badData ∧ (p.run c s).turns = [] ∧
        (e.messages = [] ∨ ∃ text, e.messages = [.failure ("Could not " ++ text)]) ∧
        (command.writesRecord = true →
          ∃ action name, e.result = .error (.recordRejected action name)) := by
      rcases isRejection_or_regrets refused with ⟨action, name, rfl⟩ | ⟨⟨text, rfl⟩, other⟩
      · exact ⟨by rw [Ending.exitCode, result]; rfl, rfl, .inl messages,
          fun _ => ⟨action, name, result⟩⟩
      · exact ⟨by rw [Ending.exitCode, result]; rfl, rfl, .inr ⟨text, messages⟩,
          fun writes => absurd writes (by simp [other])⟩
    obtain ⟨code, turns, told, rejected⟩ := codes
    refine ⟨turns, .undone (by simp [code]) told, ?_, fun _ => congrArg ExitCode.number code,
      fun writes _ => rejected writes, fun _ => blank⟩
    exact iff_of_false (by simp [code, ExitCode.number]) untold

/-- What the run of a program by the rule of a command says and reports. -/
theorem Concluded.reports {e : Ending ExitCode}
    (h : Concluded (fun ch => command.Asks ch)
      (Rules (fun r => command.ConfirmedBy r) (Boasts deed) fun p => command.Refuses p) c e) :
    e.Says deed ∧ ∀ t ∈ e.turns, ∀ ch r, t.call = .change ch → t.delivery = .reply r →
      isSuccess r.status = true → (∀ answer, ch.read r = .ok answer → command.Reports r e) ∧
        (command.goesByStatus = true → e.exitCode.number = 0) := by
  cases h with
  | @failed failure result silent unanswered =>
    have code : e.exitCode = failure.exitCode := Ending.exitCode_of_error result
    refine ⟨.undone (code ▸ failure.exitCode_ne_ok) (.inl silent), ?_⟩
    intro t ht ch r hc hr status
    obtain ⟨asked, lost⟩ := unanswered t ht ch hc
    have fails := Turn.fails_iff.mpr lost
    refine ⟨fun answer read => absurd (Turn.succeeds_of_read hc hr status read) lost,
      fun blind => ?_⟩
    have ignores : t.call.IgnoresContent := by
      rw [hc]
      cases command <;> first | exact asked | cases blind
    cases status.symm.trans (fails.of_ignoresContent ignores hr)
  | @answered looks asking reply rest s asked ending turns looked result messages =>
    obtain ⟨quiet, spoken, reports⟩ := reports_run_of_rules ending result messages
    refine ⟨spoken, fun t ht ch r hc hr status => ?_⟩
    rw [turns, quiet] at ht
    -- There is no other change: before it only lookups stand, and nothing stands behind it.
    obtain rfl : t = c.turn (.change asking) (.reply reply) := by
      rcases List.mem_append.mp ht with early | late
      · obtain ⟨l, hl⟩ := looked t early
        cases hc.symm.trans hl
      · exact List.mem_singleton.mp late
    obtain rfl : reply = r := Delivery.reply.inj hr
    refine ⟨fun _ _ => reports, fun blind => reports.succeeds_iff.mpr ?_⟩
    cases command <;> trivial

end Program

namespace Invocation

variable {i : Invocation} {vars : Variables} {s : Surroundings}

/-- **A command that writes reports success exactly for a confirmed change.** Where its change got
a reply with success, the exit code goes by the content that the command reads, or by nothing more
where it reads none; and in any run the line about the deed is on the standard output exactly if
the exit code is that of success. -/
theorem reports_run {command : ServerCommand} {deed : String} (hc : i.command = .server command)
    (hd : command.deed? = some deed) :
    (∀ t ∈ (i.run vars s).turns, ∀ ch r, t.call = .change ch → t.delivery = .reply r →
        isSuccess r.status = true →
        (∀ answer, ch.read r = .ok answer → command.Reports r (i.run vars s)) ∧
          (command.goesByStatus = true → (i.run vars s).exitCode.number = 0)) ∧
      ∀ colors, (i.run vars s).exitCode.number = 0 ↔ ∃ text, (i.run vars s).output colors =
        (Output.Message.success ("Successfully " ++ deed ++ text)).render colors := by
  have idle (failure : Failure) :
      (Ending.ofResult s (.error failure) : Ending ExitCode).Says deed :=
    .undone failure.exitCode_ne_ok (.inl rfl)
  rcases i.run_server_cases vars s hc with
    ⟨failure, -, he⟩ | ⟨c, session, -, ⟨failure, -, he⟩ | ⟨program, hp, he⟩⟩
  · -- the settings are wrong
    rw [he]
    exact ⟨fun t ht => absurd ht (List.not_mem_nil), (idle failure).output_iff⟩
  · -- the options are wrong
    rw [he]
    exact ⟨fun t ht => absurd ht (List.not_mem_nil), (idle failure).output_iff⟩
  · rw [he]
    obtain ⟨spoken, reports⟩ := ((ServerCommand.concludes hp hd).run (c := c) s).reports
    exact ⟨reports, spoken.output_iff⟩

/-- An empty list is no record, though it can be read as one. -/
theorem reports_run_of_empty_list :
    let i : Invocation :=
      { globals := { url := some "http://h/api" }
        command := .server (.register "box" (some "ACME") none none [] none []) }
    ((i.run [] (.replying ["[]"])).turns.map fun t => t.request.method) = [.post] ∧
      (i.run [] (.replying ["[]"])).exitCode.number = 65 ∧
      ∃ action name, (i.run [] (.replying ["[]"])).result = .error (.recordRejected action name) := by
  intro i
  have posts : ((i.run [] (.replying ["[]"])).turns.map fun t => t.request.method) = [.post] := by
    decide +kernel
  let registration : Registration :=
    { name := "box", org := "ACME", environmentId := none, activationKeys := []
      consumerType := Registration.systemType, release := none, serviceLevel := none, facts := [] }
  let reply : Reply := { status := 200, body := Utf8.bytes "[]" }
  have carried : (i.run [] (.replying ["[]"])).turns.map (fun t => (t.call, t.delivery)) =
      [(.change (.register registration), .reply reply)] := by decide +kernel
  obtain ⟨t, turns, same⟩ := List.map_eq_singleton_iff.mp carried
  have empty : reply.value? = some (.array []) := by rfl
  have read : (Change.register registration).read reply = .ok (some {}) := by rfl
  obtain ⟨reports, -⟩ := (@reports_run i [] (.replying ["[]"]) _ _ rfl rfl).1 t
    (turns ▸ List.mem_singleton_self t) _ _ (congrArg Prod.fst same) (congrArg Prod.snd same) rfl
  have report := reports _ read
  have untold := report.blank _ empty (.inr (.inr (.inl rfl)))
  exact ⟨posts, report.refused untold, report.rejected rfl untold⟩

end Invocation

end HostConsole
