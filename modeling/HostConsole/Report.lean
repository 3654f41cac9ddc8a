import HostConsole.Failure
import HostConsole.Text.Blank
import HostConsole.Text.Lines

/-!
# Reports

A report comes in one of four formats. The one that is not text is saved to a file, under the
name that the server suggests.

## Main definitions

* `ReportFormat`: the formats, with `ReportFormat.ofText`
* `attachmentName`: the name that a content disposition suggests
* `Report`: a report as the server sends it
-/

namespace HostConsole

/-- The formats of a report. -/
inductive ReportFormat where
  | text
  | html
  | csv
  | pdf
  deriving DecidableEq, Repr

namespace ReportFormat

/-- The media type that is asked for. -/
def mediaType : ReportFormat → String
  | text => "text/plain"
  | html => "text/html"
  | csv => "text/csv"
  | pdf => "application/pdf"

/-- Is the report saved to a file? -/
def isAttachment : ReportFormat → Bool
  | pdf => true
  | _ => false

/-- The name of a format. -/
def name : ReportFormat → String
  | text => "text"
  | html => "html"
  | csv => "csv"
  | pdf => "pdf"

/-- The format of a name, in letters of any case. -/
def ofText (s : String) : Except Failure ReportFormat :=
  let lower := String.ofList (s.toList.map Char.toLower)
  if lower = "text" ∨ lower = "txt" then .ok text
  else if lower = "html" then .ok html
  else if lower = "csv" then .ok csv
  else if lower = "pdf" then .ok pdf
  else .error (.unknownReportFormat lower)

end ReportFormat

/-- The file name of a report for which the server suggests none. -/
def defaultAttachmentName : String := "katello_systems_report.pdf"

/-- The text without quotes at its ends. -/
def withoutQuotes (cs : List Char) : List Char :=
  ((cs.dropWhile (· == '"')).reverse.dropWhile (· == '"')).reverse

/-- The part of a path behind its last slash or backslash. -/
def lastName (cs : List Char) : List Char :=
  (cs.reverse.takeWhile fun c => c != '/' && c != '\\').reverse

/-- The file name that a content disposition suggests: the first parameter of that name decides,
and only the last part of a path counts. -/
def suggestedName? (disposition : String) : Option String :=
  let parameters := (disposition.toList.splitOn ';').map Text.trim
  match parameters.findSome? (Text.stripPrefix? "filename=") with
  | none => none
  | some value =>
    let name := lastName (withoutQuotes value)
    if name.isEmpty then none else some (.ofList name)

/-- The file name for a report: the suggested one, else the given one. -/
def attachmentName (disposition : Option String) (otherwise : String) : String :=
  (disposition.bind suggestedName?).getD otherwise

@[simp] theorem attachmentName_none (otherwise : String) :
    attachmentName none otherwise = otherwise := rfl

/-- A report as the server sends it. -/
structure Report where
  body : List UInt8
  disposition : Option String
  deriving DecidableEq, Repr

end HostConsole
