import HostConsole.Proofs.FailFast
import HostConsole.Proofs.Trimming

/-!
# What a refused request says

A reply without success ends a request with a message. Four texts of the reply can explain it: the
server's own message, its errors joined, the text of the reply and its status. The message is the
first of them that has something to show, and the status line always has.

There is one exception. What the server states for the failure is taken as soon as it is there, so
that a message of its own that is empty or nothing but white space leaves the failure unexplained,
and so does a single error of nothing but white space.

## Main definitions

* `Text.isVisible`: has a text anything to show?
* `Reply.sources`: the texts that can explain a reply, the first choice first
* `Reply.StatesBlank`: the server states something for the failure, and it shows nothing

## Main results

* `Reply.find?_sources`: the explanation is the first source that has something to show
* `Reply.isVisible_explanation_iff`: when a failure is explained
* `Connection.receive_of_refused`: the fault that a reply without success ends a request with
-/

namespace HostConsole

/-! ## Texts with something to show -/

namespace Text

variable {s t : String}

/-- Has a text a character that is no white space? -/
def isVisible (s : String) : Bool :=
  s.toList.any fun c => !isBlank c

theorem isVisible_eq_false_iff : isVisible s = false ↔ ∀ c ∈ s.toList, isBlank c = true := by
  simp [isVisible]

/-- Trimming leaves something exactly if there is something to show. -/
theorem trimmed_eq_empty_iff : trimmed s = "" ↔ isVisible s = false := by
  rw [isVisible_eq_false_iff, trimmed, String.ofList_eq_empty_iff, trim_eq_iff]
  constructor
  · -- Only white space stands around nothing.
    rintro ⟨⟨front, back, split, hfront, hback⟩, -, -⟩ c hc
    rw [split, List.append_nil] at hc
    exact (List.mem_append.mp hc).elim (hfront c) (hback c)
  · intro blank
    exact ⟨⟨s.toList, [], by simp, blank, by simp⟩, by simp, by simp⟩

/-- What trimming leaves can be shown. -/
theorem isVisible_trimmed (h : trimmed s ≠ "") : isVisible (trimmed s) = true := by
  have again : trimmed (trimmed s) = trimmed s := by simp [trimmed]
  rw [← Bool.not_eq_false, ← trimmed_eq_empty_iff, again]
  exact h

theorem isVisible_empty : isVisible "" = false := rfl

theorem isVisible_append : isVisible (s ++ t) = (isVisible s || isVisible t) := by
  simp [isVisible]

end Text

/-- Joined texts show at least what stands between them. -/
theorem Text.isVisible_intercalate (first second : String) (rest : List String) :
    isVisible (String.intercalate "; " (first :: second :: rest)) = true := by
  have between : isVisible "; " = true := rfl
  rw [String.intercalate_cons_cons, isVisible_append, isVisible_append, between, Bool.or_true,
    Bool.true_or]

/-- A status line begins with the digits of the status. -/
theorem isVisible_statusText (code : Nat) : Text.isVisible (statusText code) = true := by
  have visible : ∀ c ∈ Nat.toDigits 10 code, Text.isBlank c = false := by
    intro c hc
    have digit : c.isDigit = true := Nat.isDigit_of_mem_toDigits (by decide) (by decide) hc
    obtain ⟨low, high⟩ : 48 ≤ c.toNat ∧ c.toNat ≤ 57 := Char.isDigit_iff_toNat.mp digit
    -- Every range of white space ends before the digits or begins behind them.
    simp only [Text.isBlank, Text.blankRanges, List.any_cons, List.any_nil, Bool.or_false,
      Bool.or_eq_false_iff, Bool.and_eq_false_iff, decide_eq_false_iff_not]
    omega
  obtain ⟨c, hc⟩ : ∃ c, c ∈ Nat.toDigits 10 code :=
    List.exists_mem_of_ne_nil _ Nat.toDigits_ne_nil
  rw [statusText, Text.isVisible_append, Text.isVisible_append]
  have first : Text.isVisible (Nat.repr code) = true := by
    rw [Text.isVisible, Nat.repr, String.toList_ofList, List.any_eq_true]
    exact ⟨c, hc, by simp [visible c hc]⟩
  simp [first]

namespace Reply

variable {r : Reply}

/-! ## The sources of a message -/

/-- The text of the content. A content that breaks off has none. -/
def text (r : Reply) : String :=
  Utf8.textLossy (r.content?.getD [])

/-- The value that the text denotes, where it denotes one. -/
def statedValue? (r : Reply) : Option Json :=
  (Json.readStrict (Utf8.bytes r.text)).toOption

/-- The server's own message for the failure, where it gives a text for one. -/
def displayMessage? (r : Reply) : Option String :=
  (r.statedValue?.bind fun value => value.get? "displayMessage").bind Json.text?

/-- The texts among the errors that the server lists. -/
def errorTexts (r : Reply) : List String :=
  (((r.statedValue?.bind fun value => value.get? "errors").bind Json.items?).getD []).filterMap Json.text?

/-- The errors in one text. -/
def joinedErrors (r : Reply) : String :=
  String.intercalate "; " r.errorTexts

/-- The texts that can explain a reply without success, the first choice first. -/
def sources (r : Reply) : List String :=
  r.displayMessage?.toList ++ [r.joinedErrors, Text.trimmed r.text, statusText r.status]

/-- The server states something for the failure, and it shows nothing: its own message, or the one
error that it lists in place of such a message. -/
inductive StatesBlank (r : Reply) : Prop where
  | message {message : String} (own : r.displayMessage? = some message)
      (blank : Text.isVisible message = false)
  | error {error : String} (own : r.displayMessage? = none) (only : r.errorTexts = [error])
      (given : error ≠ "") (blank : Text.isVisible error = false)

/-! ## What the server states -/

/-- What the server states for the failure: its own message, else its errors where they are not
empty. -/
def statement? (r : Reply) : Option String :=
  r.displayMessage?.or (if r.joinedErrors = "" then none else some r.joinedErrors)

theorem bind_statedMessage? : r.statedValue?.bind statedMessage? = r.statement? := by
  unfold statement? joinedErrors errorTexts displayMessage?
  cases r.statedValue? with
  | none => rfl
  | some value =>
    -- A value is there: what is left are the two choices in the same order.
    simp only [Option.bind_some, statedMessage?]
    cases (value.get? "displayMessage").bind Json.text? <;> rfl

/-- The explanation is what the server states, else the text, else the status. -/
theorem explanation_eq :
    r.explanation = r.statement?.getD
      (if Text.trimmed r.text = "" then statusText r.status else Text.trimmed r.text) := by
  rw [← bind_statedMessage?]
  unfold explanation statedValue? text
  dsimp only
  cases (Json.readStrict (Utf8.bytes (Utf8.textLossy (r.content?.getD [])))).toOption.bind
    statedMessage? <;> rfl

/-- Errors show nothing without being nothing exactly if there is only one of them. -/
theorem joinedErrors_blank_iff :
    r.joinedErrors ≠ "" ∧ Text.isVisible r.joinedErrors = false ↔
      ∃ error, r.errorTexts = [error] ∧ error ≠ "" ∧ Text.isVisible error = false := by
  unfold joinedErrors
  cases r.errorTexts with
  | nil => simp
  | cons first rest =>
    cases rest with
    | nil => simp
    | cons second rest =>
      -- The separators of two errors or more can be seen.
      have visible := Text.isVisible_intercalate first second rest
      constructor
      · rintro ⟨-, blank⟩
        cases visible.symm.trans blank
      · rintro ⟨error, only, -⟩
        cases only

theorem statesBlank_iff :
    r.StatesBlank ↔ ∃ message, r.statement? = some message ∧ Text.isVisible message = false := by
  unfold statement?
  constructor
  · rintro (⟨own, blank⟩ | ⟨own, only, given, blank⟩)
    · exact ⟨_, by rw [own]; rfl, blank⟩
    · obtain ⟨given, blank⟩ := joinedErrors_blank_iff.mpr ⟨_, only, given, blank⟩
      exact ⟨_, by rw [own, if_neg given]; rfl, blank⟩
  · rintro ⟨message, stated, blank⟩
    cases own : r.displayMessage? with
    | some own_message =>
      rw [own] at stated
      cases stated
      exact .message own blank
    | none =>
      -- No errors at all would not be a statement.
      rw [own] at stated
      by_cases given : r.joinedErrors = ""
      · simp [given] at stated
      · rw [if_neg given] at stated
        cases stated
        obtain ⟨error, only, given, blank⟩ := joinedErrors_blank_iff.mp ⟨given, blank⟩
        exact .error own only given blank

/-! ## The explanation -/

/-- Each source hands on when it has nothing to show, unless the server states something that
shows nothing. -/
theorem find?_sources (h : ¬ r.StatesBlank) :
    r.sources.find? Text.isVisible = some r.explanation := by
  rw [statesBlank_iff, not_exists] at h
  rw [explanation_eq]
  unfold sources
  cases own : r.displayMessage? with
  | some message =>
    have stated : r.statement? = some message := by rw [statement?, own]; rfl
    -- A message of the server that can be seen ends the search.
    have visible : Text.isVisible message = true := by simpa [stated] using h message
    simp [stated, visible]
  | none =>
    by_cases given : r.joinedErrors = ""
    · -- Nothing is stated: the text or the status explains.
      have stated : r.statement? = none := by simp [statement?, own, given]
      rw [stated, given, Option.getD_none]
      by_cases empty : Text.trimmed r.text = ""
      · simp [empty, Text.isVisible_empty, isVisible_statusText]
      · simp [empty, Text.isVisible_empty, Text.isVisible_trimmed empty]
    · have stated : r.statement? = some r.joinedErrors := by simp [statement?, own, given]
      have visible : Text.isVisible r.joinedErrors = true := by simpa [stated] using h r.joinedErrors
      simp [stated, visible]

/-- A failure is explained exactly if what the server states for it, if anything, can be seen. -/
theorem isVisible_explanation_iff : Text.isVisible r.explanation = true ↔ ¬ r.StatesBlank := by
  constructor
  · intro visible statesBlank
    obtain ⟨message, stated, blank⟩ := statesBlank_iff.mp statesBlank
    rw [explanation_eq, stated, Option.getD_some, blank] at visible
    cases visible
  · intro h
    exact List.find?_some (find?_sources h)

end Reply

namespace Connection

/-- **A failed request explains itself.** A reply without success, whatever its content, is a fault
with the resource and the status. Its message is the first source that has something to show,
unless the server states something that shows nothing: then that is the message, and the failure
stays unexplained. -/
theorem receive_of_refused (c : Connection) (call : Call) {r : Reply}
    (refused : ¬ (200 ≤ r.status ∧ r.status < 300)) :
    ∃ message,
      c.receive call (.reply r) = .error
        { resource := c.resource call.request
          cause := if r.status = 404 then .notFound message else .status r.status message } ∧
      (¬ r.StatesBlank → r.sources.find? Text.isVisible = some message) ∧
      (r.StatesBlank → r.statement? = some message) ∧
      (Text.isVisible message = true ↔ ¬ r.StatesBlank) := by
  have status : isSuccess r.status = false := by simpa [isSuccess] using refused
  have cause : r.refusal? = some
      (if r.status = 404 then .notFound r.explanation else .status r.status r.explanation) := by
    rw [Reply.refusal?, if_neg (by simp [status])]
    by_cases missing : r.status = 404 <;> simp [missing, notFoundCode]
  refine ⟨r.explanation, ?_, Reply.find?_sources, fun blank => ?_,
    Reply.isVisible_explanation_iff⟩
  · rw [receive, Call.answer_of_refusal cause]
    rfl
  · obtain ⟨message, stated, -⟩ := Reply.statesBlank_iff.mp blank
    rw [Reply.explanation_eq, stated, Option.getD_some]

/-- A number for a message, empty errors and no other text: the text itself explains. -/
theorem receive_of_refused_of_numbers :
    let text := "\x7b\"displayMessage\":5,\"errors\":[1,\"\"]\x7d"
    let r : Reply := { status := 404, body := Utf8.bytes (" " ++ text ++ "\n") }
    let c : Connection :=
      { base := { scheme := "http", host := some (.name "h"), route := .segments ["api"] } }
    ¬ (200 ≤ r.status ∧ r.status < 300) ∧ ¬ r.StatesBlank ∧
      c.receive (.lookup (.task "t")) (.reply r) =
        .error { resource := "/api/systems/tasks/t", cause := .notFound text } := by
  intro text r c
  have refused : ¬ (200 ≤ r.status ∧ r.status < 300) := by decide
  have found : r.sources.find? Text.isVisible = some text := by decide +kernel
  have resource : c.resource (Call.lookup (.task "t")).request = "/api/systems/tasks/t" := by
    decide +kernel
  have plain : ¬ r.StatesBlank := by
    rw [Reply.statesBlank_iff, show r.statement? = none by decide +kernel]
    simp
  obtain ⟨message, received, explained, -⟩ := c.receive_of_refused (.lookup (.task "t")) refused
  cases found.symm.trans (explained plain)
  exact ⟨refused, plain, by rw [received, resource]; rfl⟩

/-- An empty message of the server is passed on, though the text of its reply has something to
show. -/
theorem receive_of_empty_message :
    let r : Reply := { status := 500, body := Utf8.bytes "\x7b\"displayMessage\":\"\"\x7d" }
    let c : Connection :=
      { base := { scheme := "http", host := some (.name "h"), route := .segments ["api"] } }
    r.sources.find? Text.isVisible = some "\x7b\"displayMessage\":\"\"\x7d" ∧
      c.receive (.lookup (.task "t")) (.reply r) =
        .error { resource := "/api/systems/tasks/t", cause := .status 500 "" } := by
  intro r c
  have cause : r.refusal? = some (.status 500 "") := by decide +kernel
  have resource : c.resource (Call.lookup (.task "t")).request = "/api/systems/tasks/t" := by
    decide +kernel
  refine ⟨by decide +kernel, ?_⟩
  rw [receive, Call.answer_of_refusal cause, ← resource]
  rfl

end Connection

end HostConsole
