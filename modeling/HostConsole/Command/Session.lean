import HostConsole.CommandLine.Invocation
import HostConsole.Output.Layout
import HostConsole.Polling
import HostConsole.Program.Basic
import HostConsole.Settings.Basic
import HostConsole.SystemReference.Options

/-!
# Sessions

What a command knows of settings and global options while it works. A command first checks its
own options, without any effect, and gives a program only when they are in order.

## Main definitions

* `Session`: what a command knows
* `Session.organisation`, `Session.target`: what a command is about
* `Program.showRows`, `Program.showRow`: the ends of commands that show something
-/

namespace HostConsole

open Output

/-- What a command knows of settings and global options. -/
structure Session where
  /-- The organisation that counts where a command names none. -/
  org : Option String
  strategy : Strategy
  polling : Polling
  reportDirectory : String
  deriving DecidableEq, Repr

/-- What a command gives when its options are in order. -/
abbrev Prepared := Except Failure (Program ExitCode)

namespace Session

/-- The session of settings and global options. -/
def of (settings : Settings) (globals : Globals) : Session :=
  { org := settings.org
    strategy := .ofSwitches globals.verbose globals.grep
    polling := .withTimeout settings.taskTimeoutMillis
    reportDirectory := settings.reportDirectory }

/-- The organisation that a command is about. -/
def organisation (s : Session) (given : Option String) : Except Failure String :=
  match given.or s.org with
  | some org => .ok org
  | none => .error (.usage .organisationMissing)

/-- The organisation and the system that a command is about. -/
def target (s : Session) (system : Selector) : Except Failure (String × SystemReference) := do
  let org ← s.organisation system.org
  let reference ← SystemReference.ofOptions system.name system.uuid
  return (org, reference)

end Session

namespace Program

/-- Ends with some rows. -/
def showRows (listing : Layout × List Row) : Program ExitCode := do
  say (.rows listing.1 listing.2)
  return .ok

/-- Ends with a single row. -/
def showRow (sheet : Layout × Row) : Program ExitCode := do
  say (.row sheet.1 sheet.2)
  return .ok

/-- Ends with a line. -/
def showLine (text : String) : Program ExitCode := do
  say (.line text)
  return .ok

/-- Ends with what was done. -/
def succeed (text : String) : Program ExitCode := do
  say (.success text)
  return .ok

/-- Ends with what could not be done. -/
def disappoint (text : String) : Program ExitCode := do
  say (.failure text)
  return .badData

end Program

end HostConsole
