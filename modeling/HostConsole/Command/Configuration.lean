import HostConsole.CommandLine.Invocation
import HostConsole.Program.Run
import HostConsole.Settings.Loading

/-!
# Commands about the settings

The commands that show the settings, tell where they are kept and write a file to begin with.
None of them talks to the server.

## Main definitions

* `Globals.settings`: the settings under the options of the command line
* `ConfigCommand.run`: the run of a command
-/

namespace HostConsole

/-- The layer of the global options. -/
def Globals.layer (globals : Globals) : Layer :=
  { url := globals.url
    username := globals.username
    password := globals.password
    taskTimeout := globals.taskTimeout.map some }

/-- The settings of file and environment under the global options. -/
def Globals.settings (globals : Globals) (vars : Variables) (files : Files) :
    Except Failure Settings := do
  return (← Settings.load vars files globals.config).overlay globals.layer

namespace Ending

variable {α : Type}

/-- An ending without effects. -/
def ofResult (surroundings : Surroundings) (result : Except Failure α) : Ending α :=
  { result, events := [], surroundings }

/-- An ending that only tells something. -/
def ofEvents (surroundings : Surroundings) (events : List Event) : Ending ExitCode :=
  { result := .ok .ok, events, surroundings }

end Ending

namespace ConfigCommand

/-- Shows the settings, the password masked. -/
def showSettings (globals : Globals) (vars : Variables) (s : Surroundings) :
    Ending ExitCode :=
  match globals.settings vars s.files >>= Settings.toText with
  | .ok text => .ofEvents s [.told (.line text)]
  | .error failure => .ofResult s (.error failure)

/-- The path of a file, with a word about whether it is there. -/
def pathLine (files : Files) (path : String) : String :=
  "global: " ++ path ++ " (" ++ (if files.isThere path then "exists" else "not found") ++ ")"

/-- Tells where the settings are kept. -/
def showPaths (globals : Globals) (vars : Variables) (s : Surroundings) :
    Ending ExitCode :=
  let usual : Event := match configurationPath? vars with
    | some path => .told (.line (pathLine s.files path))
    | none => .warned "no config directory on this platform"
  let named := globals.config.toList.map fun path => Event.told (.line ("--config: " ++ path))
  .ofEvents s (usual :: named)

/-- The file that a command begins, and the directory that is made for it. A file that is named
by an option gets no directory. -/
def newFile (globals : Globals) (vars : Variables) :
    Except Failure (String × Option String) :=
  match globals.config, configurationPath? vars with
  | some path, _ => .ok (path, none)
  | none, some path => .ok (path, configurationDirectory? vars)
  | none, none => .error (.usage .noConfigDirectory)

/-- The files with the directory that a new file needs. -/
def withDirectory (files : Files) (directory : Option String) : Except Failure Files :=
  match directory with
  | none => .ok files
  | some directory =>
    (files.makeDirectories directory).mapError fun _ => .inputOutput ("create " ++ directory)

/-- Begins a file of settings. One that is there is only overwritten by force. -/
def beginFile (globals : Globals) (vars : Variables) (force : Bool) (s : Surroundings) :
    Ending ExitCode :=
  match newFile globals vars with
  | .error failure => .ofResult s (.error failure)
  | .ok (path, directory) =>
    if s.files.isThere path && !force then .ofResult s (.error (.usage (.fileExists path)))
    else match withDirectory s.files directory with
      | .error failure => .ofResult s (.error failure)
      | .ok files =>
        match files.write path (Utf8.bytes Settings.template) with
        | .error _ => .ofResult { s with files } (.error (.inputOutput ("write " ++ path)))
        | .ok files =>
          .ofEvents { s with files } [.told (.success ("Created " ++ path))]

/-- The run of a command. -/
def run (globals : Globals) (vars : Variables) (s : Surroundings) :
    ConfigCommand → Ending ExitCode
  | display => showSettings globals vars s
  | locate => showPaths globals vars s
  | init force => beginFile globals vars force s

end ConfigCommand

end HostConsole
