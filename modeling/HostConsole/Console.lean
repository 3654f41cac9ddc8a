import HostConsole.Command.Configuration
import HostConsole.Command.Prepare

/-!
# The console

Runs an invocation: settings first, then the connection, then the program of the command.

## Main definitions

* `Invocation.serve`: the run of a command that talks to the server
* `Invocation.run`: the run of any command
* `Ending.exitCode`, `Ending.output`, `Ending.complaints`: what a user sees of a run
* `Console.run`: the run of a command line, and `Closing`, what is left of it
-/

namespace HostConsole

namespace Invocation

/-- The connection and the session of an invocation. -/
def open? (i : Invocation) (vars : Variables) (files : Files) :
    Except Failure (Connection × Session) := do
  let settings ← i.globals.settings vars files
  let connection ← Connection.ofSettings settings
  return (connection, .of settings i.globals)

/-- The run of a command that talks to the server. -/
def serve (i : Invocation) (vars : Variables) (s : Surroundings) : Ending ExitCode :=
  match i.open? vars s.files with
  | .error failure => .ofResult s (.error failure)
  | .ok (connection, session) =>
    match i.command.prepare session with
    | .error failure => .ofResult s (.error failure)
    | .ok program => program.run connection s

/-- The run of any command. The script of a shell is no part of the console. -/
def run (i : Invocation) (vars : Variables) (s : Surroundings) : Ending ExitCode :=
  match i.command with
  | .server _ => i.serve vars s
  | .config command => command.run i.globals vars s
  | .completion _ => .ofEvents s []

end Invocation

namespace Event

/-- What an event puts on the standard output. -/
def output (colors : Bool) : Event → String
  | told message => message.render colors
  | _ => ""

/-- What an event puts on the error output. -/
def complaint (colors : Bool) : Event → String
  | warned text => Text.paint colors .yellow "Warning" ++ ": " ++ text ++ "\n"
  | _ => ""

/-- The milliseconds that nothing was done. -/
def sleep? : Event → Option Nat
  | slept duration => some duration
  | _ => none

/-- The state that a task was seen in. -/
def state? : Event → Option TaskState
  | saw task => some task.state
  | _ => none

end Event

/-- A failure as the user is told of it. -/
def Failure.report (colors : Bool) (failure : Failure) : String :=
  Text.paint colors .alarm "error" ++ ": " ++ failure.message ++ "\n"

namespace Ending

/-- The exit code of a run. -/
def exitCode (ending : Ending ExitCode) : ExitCode :=
  match ending.result with
  | .ok code => code
  | .error failure => failure.exitCode

variable {α : Type}

/-- The requests that went out. -/
def requests (ending : Ending α) : List WireRequest :=
  ending.turns.map Turn.request

/-- The text on the standard output. -/
def output (colors : Bool) (ending : Ending α) : String :=
  String.join (ending.events.map (Event.output colors))

/-- The text on the error output. -/
def complaints (colors : Bool) (ending : Ending α) : String :=
  String.join (ending.events.map (Event.complaint colors)) ++
    match ending.result with
    | .ok _ => ""
    | .error failure => failure.report colors

end Ending

/-- What is left of the run of a command line. -/
structure Closing where
  exitCode : ExitCode
  output : String
  complaints : String
  requests : List WireRequest := []
  surroundings : Surroundings

namespace CommandLine.Rejection

/-- The exit code where a command line is rejected. Asking for help or for the version is no
mistake. -/
def exitCode : Rejection → ExitCode
  | displayHelp | displayVersion _ => .ok
  | _ => .usage

/-- What the user is told in place of a command: the version. Pages of help are no part of the
console. -/
def output : Rejection → String
  | displayVersion names => String.intercalate "-" names ++ " " ++ consoleVersion ++ "\n"
  | _ => ""

end CommandLine.Rejection

namespace Console

/-- How often the option for more detail counts. -/
def largestDetail : Nat := 3

/-- What the user is told who asks for more detail than there is. -/
def detailComplaint (globals : Globals) : String :=
  if largestDetail < globals.debug then "Don't be crazy, max is -d -d -d\n" else ""

/-- Are colours wanted? The environment can force or forbid them; else a terminal decides. -/
def areColorsWanted (vars : Variables) (isTerminal : Bool) : Bool :=
  if (vars.get? "CLICOLOR_FORCE").any (· != "0") then true
  else if (vars.get? "NO_COLOR").isSome then false
  else isTerminal && (vars.get? "CLICOLOR").all (· != "0")

/-- The run of a command line. -/
def run (arguments : List String) (vars : Variables) (colors : Bool) (s : Surroundings) :
    Closing :=
  match Invocation.ofArguments arguments with
  | .error rejection =>
    { exitCode := rejection.exitCode, output := rejection.output, complaints := ""
      surroundings := s }
  | .ok invocation =>
    let ending := invocation.run vars s
    { exitCode := ending.exitCode
      output := ending.output colors
      complaints := detailComplaint invocation.globals ++ ending.complaints colors
      requests := ending.requests
      surroundings := ending.surroundings }

end Console

end HostConsole
