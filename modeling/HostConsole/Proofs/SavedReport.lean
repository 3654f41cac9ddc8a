import HostConsole.Console
import HostConsole.Proofs.AttachmentName
import HostConsole.Proofs.ExitCodes
import HostConsole.Proofs.FileWrites
import HostConsole.Proofs.Finding

/-!
# Saved reports

A report in a format that is no text is saved, and nothing else that a report can come to touches
a file. The file has the whole of the body, for a body that breaks off is no report. It is in the
directory for reports, for the name that the server suggests leads nowhere else.

## How far a run comes

`Report.Outcome` says it once: to no report, to a report that is shown, to one that is saved, or to
one that could not be. The files differ in the third case only, and there in one place.

## Main definitions

* `Delivery.Carries`, `Turn.Brings`: a reply with the whole of a report
* `Report.Misses`: why a run comes to no report
* `Report.IsFetched`: a run without a report, or one whose last turn brought it
* `Report.Outcome`: how far a run comes, and what it leaves of the files

## Main results

* `Report.isFetched_fetch`: fetching a report comes to one of the two
* `Report.exists_of_write`: a report that is written is in the directory
* `Session.outcome_report`: how far the program of the command comes
* `Invocation.saves_report`: how far every run of the command comes
-/

namespace HostConsole

open Program

/-! ## Replies with a report -/

/-- The delivery is a reply with success that has the whole of the report. -/
def Delivery.Carries (d : Delivery) (report : Report) : Prop :=
  ∃ r, d = .reply r ∧ isSuccess r.status ∧ r.content? = some report.body ∧
    report.disposition = r.header? "content-disposition"

/-- The turn asked for a report in a format and got the whole of it. -/
def Turn.Brings (t : Turn) (format : ReportFormat) (report : Report) : Prop :=
  (∃ scope, t.call = .lookup (.report scope format)) ∧ t.delivery.Carries report

theorem Reply.report_eq_ok_iff {r : Reply} {report : Report} :
    r.report = .ok report ↔
      r.content? = some report.body ∧ report.disposition = r.header? "content-disposition" := by
  obtain ⟨body, disposition⟩ := report
  unfold Reply.report Reply.bytes
  cases r.content? with
  | none => exact ⟨nofun, nofun⟩
  | some content =>
    constructor
    · rintro ⟨⟩
      exact ⟨rfl, rfl⟩
    · rintro ⟨⟨⟩, rfl⟩
      rfl

/-- A reply answers a call exactly if it is one with success and the call can read it. -/
theorem Delivery.answer?_reply_iff {call : Call} {r : Reply} {answer : call.Answer} :
    (Delivery.reply r).answer? call = some answer ↔
      isSuccess r.status = true ∧ call.read r = .ok answer := by
  change (call.answer r).toOption = some answer ↔ _
  cases status : isSuccess r.status with
  | false =>
    obtain ⟨cause, refused⟩ := Reply.exists_refusal? status
    simp [Call.answer_of_refusal refused, Except.toOption]
  | true =>
    rw [Call.answer_of_isSuccess status]
    cases call.read r <;> simp [Except.toOption]

/-- A report is the answer in what arrived exactly if that has the whole of it. -/
theorem Delivery.answer?_report_iff {d : Delivery} {scope : ReportScope} {format : ReportFormat}
    {report : Report} :
    d.answer? (.lookup (.report scope format)) = some report ↔ d.Carries report := by
  cases d with
  | nothing => exact ⟨nofun, nofun⟩
  | reply r =>
    constructor
    · intro answered
      obtain ⟨status, whole⟩ := answer?_reply_iff.mp answered
      exact ⟨r, rfl, status, Reply.report_eq_ok_iff.mp whole⟩
    · rintro ⟨_, ⟨⟩, status, whole⟩
      exact answer?_reply_iff.mpr ⟨status, Reply.report_eq_ok_iff.mpr whole⟩

/-! ## Fetching a report -/

/-- Why no report was brought: a request could not go out, a turn failed, or a turn told that there
is no environment of the name. -/
inductive Report.Misses (c : Connection) (isListening : Bool) (turns : List Turn) : Prop where
  | kept {call : Call} {fault : RemoteFault}
      (obstacle : c.obstacle? isListening call.request = some fault) : Misses c isListening turns
  | failed {t : Turn} (mem : t ∈ turns) (fails : ¬ t.Succeeds) : Misses c isListening turns
  | nowhere {t : Turn} (mem : t ∈ turns) (none : t.environments? = some []) :
      Misses c isListening turns

theorem Report.Misses.append {c : Connection} {isListening : Bool} {turns : List Turn}
    (h : Misses c isListening turns) (before : List Turn) :
    Misses c isListening (before ++ turns) := by
  cases h with
  | kept obstacle => exact .kept obstacle
  | failed mem fails => exact .failed (List.mem_append_right _ mem) fails
  | nowhere mem none => exact .nowhere (List.mem_append_right _ mem) none

section Fetching

variable {c : Connection} {format : ReportFormat} (s : Surroundings)

/-- Looking for an environment is one lookup, of which the first environment is taken. -/
theorem Resolution.exists_environment_eq_ask (org : String) (name : Option String) :
    ∃ missing choose, environment org name = ask (.lookup (.environments org name)) missing choose ∧
      (∀ first others, choose (first :: others) = done first) ∧
      ∃ failure, choose [] = fail failure :=
  ⟨_, _, rfl, fun _ _ => rfl, _, rfl⟩

/-- A run that looks for an environment asks for nothing else, and it finds one or there is a
cause. -/
theorem Resolution.environment_cases (org : String) (name : Option String) :
    (∀ t ∈ ((environment org name).run c s).turns, t.call = .lookup (.environments org name)) ∧
      ((∃ place, ((environment org name).run c s).result = .ok place) ∨
        ∃ failure, ((environment org name).run c s).result = .error failure ∧
          Report.Misses c s.network.isListening ((environment org name).run c s).turns) := by
  obtain ⟨missing, choose, whole, taken, failure, none⟩ := exists_environment_eq_ask org name
  rw [whole]
  rcases run_ask (c := c) (.lookup (.environments org name)) missing choose s with
    ⟨fault, obstacle, turns, result⟩ | ⟨d, found, s', answered, -, he⟩ |
      ⟨d, fault, unanswered, -, turns, result⟩
  · rw [turns]
    exact ⟨by simp, .inr ⟨_, result, .kept obstacle⟩⟩
  · have only {e : Ending Environment} (silent : e.turns = []) :
        (e.after [.sent (c.turn (.lookup (.environments org name)) d)]).turns =
          [c.turn (.lookup (.environments org name)) d] := by
      rw [Ending.turns_after, silent]
      rfl
    rw [he]
    cases found with
    | nil =>
      -- The lookup succeeded, and yet there is nothing to go on with.
      rw [none, only rfl]
      refine ⟨by simp [Connection.turn], .inr ⟨failure, rfl, ?_⟩⟩
      exact .nowhere (List.mem_singleton_self _) answered
    | cons first others =>
      rw [taken, only rfl]
      exact ⟨by simp [Connection.turn], .inl ⟨first, rfl⟩⟩
  · rw [turns]
    refine ⟨by simp [Connection.turn], .inr ⟨_, result, .failed (List.mem_singleton_self _) ?_⟩⟩
    simp [Turn.Succeeds, Connection.turn, unanswered]

namespace Report

/-- The lookup of a report. -/
def request (scope : ReportScope) (format : ReportFormat) : Program Report :=
  look (.report scope format)

theorem writesNothing_fetch (org : String) (environment : Option String) (format : ReportFormat) :
    (fetch org environment format).WritesNothing := by
  cases environment with
  | none => exact fun answer => trivial
  | some name =>
    refine WritesNothing.bind (p := Resolution.environment org (some name)) ?_ ?_
    · intro found
      cases found <;> trivial
    · exact fun place answer => trivial

/-- The turns bring no report, and there is a cause. -/
structure IsMissing (c : Connection) (isListening : Bool) (format : ReportFormat)
    (turns : List Turn) : Prop where
  cause : Misses c isListening turns
  unread : ∀ t ∈ turns, ∀ report, ¬ t.Brings format report

/-- The run has no report, or its last turn brought it. -/
inductive IsFetched (c : Connection) (isListening : Bool) (format : ReportFormat)
    (e : Ending Report) : Prop where
  | missed {failure : Failure} (failed : e.result = .error failure)
      (missing : IsMissing c isListening format e.turns) : IsFetched c isListening format e
  | brought {report : Report} {looks : List Turn} {t : Turn} (found : e.result = .ok report)
      (last : e.turns = looks ++ [t]) (brings : t.Brings format report) :
      IsFetched c isListening format e

/-- Turns that bring nothing may go before. -/
theorem IsFetched.after {isListening : Bool} {e : Ending Report} {events : List Event}
    (h : IsFetched c isListening format e)
    (other : ∀ t ∈ turnsOf events, ∀ report, ¬ t.Brings format report) :
    IsFetched c isListening format (e.after events) := by
  cases h with
  | missed failed missing =>
    refine .missed failed ?_
    rw [Ending.turns_after]
    refine ⟨missing.cause.append _, fun t mem => ?_⟩
    rcases List.mem_append.mp mem with before | mem
    · exact other t before
    · exact missing.unread t mem
  | @brought report looks t found last brings =>
    have behind : (e.after events).turns = turnsOf events ++ looks ++ [t] := by
      rw [Ending.turns_after, last, List.append_assoc]
    exact .brought found behind brings

theorem isFetched_request (scope : ReportScope) :
    IsFetched c s.network.isListening format ((request scope format).run c s) := by
  rcases run_ask (c := c) (.lookup (.report scope format)) none done s with
    ⟨fault, obstacle, ht, hr⟩ | ⟨d, report, s', answered, -, he⟩ | ⟨d, fault, unanswered, -, ht, hr⟩
  · have silent : ((request scope format).run c s).turns = [] := ht
    refine .missed hr ?_
    rw [silent]
    exact ⟨.kept obstacle, by simp⟩
  · have single : ((request scope format).run c s).turns =
        [] ++ [c.turn (.lookup (.report scope format)) d] := congrArg Ending.turns he
    exact .brought (congrArg Ending.result he) single
      ⟨⟨scope, rfl⟩, Delivery.answer?_report_iff.mp answered⟩
  · have single : ((request scope format).run c s).turns =
        [c.turn (.lookup (.report scope format)) d] := ht
    refine .missed hr ?_
    rw [single]
    refine ⟨.failed (List.mem_singleton_self _) ?_, fun t mem report => ?_⟩
    · simp [Turn.Succeeds, Connection.turn, unanswered]
    · rw [List.mem_singleton.mp mem]
      rintro ⟨-, whole⟩
      cases unanswered.symm.trans (Delivery.answer?_report_iff.mpr whole)

/-- **A report is brought by the last turn**, or it is missing for a cause. -/
theorem isFetched_fetch (org : String) (environment : Option String) :
    IsFetched c s.network.isListening format ((fetch org environment format).run c s) := by
  cases environment with
  | none => exact isFetched_request s (.organisation org)
  | some name =>
    let looking := (Resolution.environment org (some name)).run c s
    obtain ⟨calls, found⟩ := Resolution.environment_cases (c := c) s org (some name)
    have whole : (fetch org (some name) format).run c s = looking.andThen fun place s =>
        (request (.environment place.id) format).run c s :=
      run_bind (Resolution.environment org (some name)) _ s
    -- No turn before the lookup of the report asks for one.
    have other : ∀ t ∈ looking.turns, ∀ report, ¬ t.Brings format report := by
      rintro t mem report ⟨⟨scope, asks⟩, -⟩
      cases (calls t mem).symm.trans asks
    rw [whole]
    rcases found with ⟨place, found⟩ | ⟨failure, failed, cause⟩
    · rw [Ending.andThen_of_ok found]
      rw [← (Resolution.environment org (some name)).isListening_run (c := c) s]
      exact (isFetched_request looking.surroundings (.environment place.id)).after other
    · rw [Ending.andThen_of_error failed]
      exact .missed rfl ⟨cause, other⟩

end Report

end Fetching

/-! ## How far a run comes -/

namespace Report

/-- The last of the turns brings the report, and all of them succeeded. -/
structure IsReadBy (report : Report) (format : ReportFormat) (turns : List Turn) : Prop where
  succeeded : ∀ t ∈ turns, t.Succeeds
  brought : ∃ looks t, turns = looks ++ [t] ∧ t.Brings format report

/-- How far a run comes with a report in a format for a directory, and what it leaves of the
files. -/
inductive Outcome (c : Connection) (s : Surroundings) (directory : String) (format : ReportFormat)
    (e : Ending ExitCode) : Prop where
  /-- No report was brought. -/
  | unfetched {failure : Failure} (failed : e.result = .error failure)
      (missing : IsMissing c s.network.isListening format e.turns)
      (kept : e.surroundings.files = s.files)
  /-- A report in text was shown. -/
  | shown {report : Report} (read : report.IsReadBy format e.turns) (text : format ≠ .pdf)
      (done : e.exitCode.number = 0) (kept : e.surroundings.files = s.files)
  /-- The body is in a file of the directory, and all else is as it was. -/
  | saved {report : Report} {place : Place} {name : String}
      (read : report.IsReadBy format e.turns) (attachment : format = .pdf)
      (inside : s.files.IsDirectoryAt directory place) (proper : IsFileName name)
      (written : s.files.DiffersIn e.surroundings.files (place ++ [name]) report.body)
      (named : name = attachmentName report.disposition defaultAttachmentName)
      (done : e.exitCode.number = 0)
  /-- The file could not be written, and all is as it was. -/
  | unsaved {report : Report} {fault : FileFault}
      (read : report.IsReadBy format e.turns) (attachment : format = .pdf)
      (refused : s.files.write (report.storePath directory) report.body = .error fault)
      (failed : e.result =
        .error (.operationFailed ("failed to write report: " ++ report.storePath directory)))
      (exit : e.exitCode.number = 73) (kept : e.surroundings.files = s.files)

/-- The name of a report has no separator, whatever the server suggests. -/
theorem undivided_attachmentName (disposition : Option String) :
    attachmentName disposition defaultAttachmentName ≠ "" ∧
      ∀ c ∈ (attachmentName disposition defaultAttachmentName).toList, ¬ IsSeparator c := by
  rcases attachmentName_cases disposition defaultAttachmentName with
    ⟨header, -, suggests, nonempty⟩ | ⟨-, other⟩
  · exact ⟨nonempty, suggests.undivided⟩
  · rw [other]
    refine ⟨by decide, ?_⟩
    rintro c mem (rfl | rfl)
    · exact isFileName_defaultAttachmentName.slash mem
    · exact isFileName_defaultAttachmentName.backslash mem

/-- **A report that is written is in the directory**, under the name of a file. -/
theorem exists_of_write {files after : Files} {directory : String} {report : Report}
    (h : files.write (report.storePath directory) report.body = .ok after) :
    IsFileName (attachmentName report.disposition defaultAttachmentName) ∧
      ∃ place, files.IsDirectoryAt directory place ∧
        files.DiffersIn after
          (place ++ [attachmentName report.disposition defaultAttachmentName]) report.body := by
  obtain ⟨nonempty, undivided⟩ := undivided_attachmentName report.disposition
  -- Dots are names too, but a path that ends in them leads to a directory, which is not written.
  have slash := fun mem => undivided '/' mem (.inl rfl)
  have backslash := fun mem => undivided '\\' mem (.inr rfl)
  obtain ⟨proper, written⟩ := Files.exists_of_write_joinPath slash nonempty h
  obtain ⟨dot, dots⟩ := not_or.mp proper
  exact ⟨⟨nonempty, slash, backslash, dot, dots⟩, written⟩

/-- What the command does with a report: it saves one that is no text, and shows the others. -/
def present (session : Session) (format : ReportFormat) (report : Report) : Program ExitCode :=
  if format.isAttachment then do
    let path ← report.store session.reportDirectory
    succeed ("Report saved to " ++ path)
  else showLine (Utf8.textLossy report.body)

theorem isAttachment_iff {format : ReportFormat} : format.isAttachment = true ↔ format = .pdf := by
  cases format <;> decide

/-- What becomes of a report that was read, while the files stayed as they were. -/
theorem outcome_present {c : Connection} {session : Session} {format : ReportFormat}
    {report : Report} {events : List Event} (read : report.IsReadBy format (turnsOf events))
    {s s' : Surroundings} (kept : s'.files = s.files) :
    Outcome c s session.reportDirectory format
      (((report.present session format).run c s').after events) := by
  have read_of {e : Ending ExitCode} (silent : e.turns = []) :
      report.IsReadBy format (e.after events).turns := by
    rw [Ending.turns_after, silent, List.append_nil]
    exact read
  unfold present
  split
  · next attachment =>
    have pdf := isAttachment_iff.mp attachment
    cases written : s'.files.write (report.storePath session.reportDirectory) report.body with
    | ok after =>
      -- The file is there when the user is told of it.
      have run_eq : (report.store session.reportDirectory >>= fun path =>
            succeed ("Report saved to " ++ path)).run c s' =
          (succeed ("Report saved to " ++ report.storePath session.reportDirectory)).run c
            { s' with files := after } := run_save_of_ok written
      rw [kept] at written
      obtain ⟨proper, place, inside, differs⟩ := exists_of_write written
      rw [run_eq]
      exact .saved (read_of rfl) pdf inside proper differs rfl rfl
    | error fault =>
      have run_eq : (report.store session.reportDirectory >>= fun path =>
            succeed ("Report saved to " ++ path)).run c s' =
          .ofResult s' (.error (.operationFailed
            ("failed to write report: " ++ report.storePath session.reportDirectory))) :=
        run_save_of_error written
      rw [kept] at written
      rw [run_eq]
      exact .unsaved (read_of rfl) pdf written rfl rfl kept
  · next text =>
    exact .shown (read_of rfl) (fun pdf => text (isAttachment_iff.mpr pdf)) rfl kept

end Report

/-- **How far the command for a report comes.** -/
theorem Session.outcome_report {c : Connection} {session : Session}
    {org environment : Option String} {text : String} {program : Program ExitCode}
    (h : session.report org environment text = .ok program) (s : Surroundings) :
    ∃ format, ReportFormat.ofText text = .ok format ∧
      Report.Outcome c s session.reportDirectory format (program.run c s) := by
  obtain ⟨org, -, h⟩ := exists_of_bind_eq_ok h
  obtain ⟨format, known, h⟩ := exists_of_bind_eq_ok h
  obtain rfl : Report.fetch org environment format >>= Report.present session format = program :=
    Except.ok.inj h
  refine ⟨format, known, ?_⟩
  have kept := (Report.writesNothing_fetch org environment format).files_run (c := c) s
  rw [run_bind]
  cases Report.isFetched_fetch (c := c) s org environment with
  | missed failed missing =>
    rw [Ending.andThen_of_error failed]
    exact .unfetched rfl missing kept
  | brought found last brings =>
    -- A run that goes on with a report made no turn that failed.
    have succeeded := ((Report.fetch org environment format).isFailFast_run (c := c) s).2
    rw [Ending.andThen_of_ok found]
    exact Report.outcome_present ⟨succeeded ⟨_, found⟩, _, _, last, brings⟩ kept

/-- Without a program there is no organisation, or the format is not known. -/
theorem Session.report_eq_error {session : Session} {org environment : Option String}
    {text : String} {failure : Failure} (h : session.report org environment text = .error failure) :
    session.organisation org = .error failure ∨ ReportFormat.ofText text = .error failure := by
  rcases error_or_of_bind_eq_error h with none | ⟨name, -, h⟩
  · exact .inl none
  · rcases error_or_of_bind_eq_error h with unknown | ⟨format, -, h⟩
    · exact .inr unknown
    · cases h

namespace Invocation

variable (i : Invocation) (vars : Variables) (s : Surroundings)

/-- **A report is saved whole or not at all**, and in the directory for reports. A run whose
settings or options are not in order asks for nothing and leaves the files as they are; any other
one comes as far as `Report.Outcome` says. -/
theorem saves_report {org environment : Option String} {text : String}
    (hc : i.command = .server (.report org environment text)) :
    (∃ failure, i.run vars s = .ofResult s (.error failure) ∧
      ∀ c session, i.open? vars s.files = .ok (c, session) →
        session.organisation org = .error failure ∨ ReportFormat.ofText text = .error failure) ∨
    ∃ c session format, i.open? vars s.files = .ok (c, session) ∧
      ReportFormat.ofText text = .ok format ∧
      Report.Outcome c s session.reportDirectory format (i.run vars s) := by
  rcases i.run_server_cases vars s hc with
    ⟨failure, closed, he⟩ | ⟨c, session, opened, ⟨failure, refused, he⟩ | ⟨program, prepared, he⟩⟩
  · refine .inl ⟨failure, he, fun c session opened => ?_⟩
    cases closed.symm.trans opened
  · refine .inl ⟨failure, he, fun c' session' opened' => ?_⟩
    cases opened.symm.trans opened'
    exact Session.report_eq_error refused
  · obtain ⟨format, known, outcome⟩ := Session.outcome_report (c := c) prepared s
    rw [← he] at outcome
    exact .inr ⟨c, session, format, opened, known, outcome⟩

/-- The command for a report in some format about an organisation, at the server of a fixed
address. -/
def reporting (format : String) : Invocation :=
  { globals := { url := some "http://h/api" }
    command := .server (.report (some "ACME") none format) }

/-- A name that climbs out of the directory does not get there: only its last part counts. -/
theorem saves_report_of_climbing_name :
    let found : Delivery := .reply
      { status := 200
        headers := [("content-disposition", "attachment; filename=\"../../etc/web.pdf\"")]
        body := Utf8.bytes "%PDF" }
    let vars : Variables := [("KATELLO_REPORT_DIR", "/srv/./reports/")]
    let s : Surroundings :=
      { network := { isListening := true, deliveries := [found] }
        files := Files.ofEntries [] [(["srv", "reports"], .directory)] }
    let e := (reporting "pdf").run vars s
    (reporting "pdf").command = .server (.report (some "ACME") none "pdf") ∧
      (∃ c session, (reporting "pdf").open? vars s.files = .ok (c, session) ∧
        Report.Outcome c s session.reportDirectory .pdf e) ∧
      s.files.changes e.surroundings.files =
        [(["srv", "reports", "web.pdf"], .file (Utf8.bytes "%PDF"))] := by
  intro found vars s e
  have changed : s.files.changes e.surroundings.files =
      [(["srv", "reports", "web.pdf"], .file (Utf8.bytes "%PDF"))] := by decide +kernel
  refine ⟨rfl, ?_, changed⟩
  rcases (reporting "pdf").saves_report vars s rfl with
    ⟨failure, kept, -⟩ | ⟨c, session, format, opened, known, outcome⟩
  · have same : e.surroundings = s := congrArg Ending.surroundings kept
    rw [same] at changed
    exact absurd changed (by decide +kernel)
  · cases known
    exact ⟨c, session, opened, outcome⟩

end Invocation

end HostConsole
