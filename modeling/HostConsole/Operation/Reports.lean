import HostConsole.Operation.Resolution

/-!
# Making reports

## Main definitions

* `Report.fetch`: a report about the systems of an organisation or of an environment
* `Report.store`: saving a report to a file
-/

namespace HostConsole.Report

open Program

/-- A report about the systems of an environment, or of the organisation. -/
def fetch (org : String) (environment : Option String) (format : ReportFormat) :
    Program Report := do
  match environment with
  | some name =>
    let place ← Resolution.environment org (some name)
    look (.report (.environment place.id) format)
  | none => look (.report (.organisation org) format)

/-- The file of a directory that a report is saved to. -/
def storePath (directory : String) (report : Report) : String :=
  joinPath directory (attachmentName report.disposition defaultAttachmentName)

/-- Saves a report to a file of a directory. The result is the path of the file. -/
def store (directory : String) (report : Report) : Program String := do
  let path := storePath directory report
  write path report.body (.operationFailed ("failed to write report: " ++ path))
  return path

end HostConsole.Report
