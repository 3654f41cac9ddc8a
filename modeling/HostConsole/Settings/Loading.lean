import HostConsole.Identity
import HostConsole.Settings.File
import HostConsole.Settings.Variables
import HostConsole.Text.Utf8

/-!
# Loading the settings

The layers, from the lowest to the highest: the defaults, the configuration file, the
environment and the options of the command line.

## Main definitions

* `configurationDirectory?`, `configurationPath?`: where the console keeps its settings
* `fileLayer`: the layer of the configuration file
* `Settings.load`: the settings of file and environment
-/

namespace HostConsole

/-- The directory in which the console keeps its settings. -/
def configurationDirectory? (vars : Variables) : Option String :=
  match vars.home? with
  | none => none
  | some home =>
    let own := (vars.get? "XDG_CONFIG_HOME").filter fun d => d.toList.head? == some '/'
    some (joinPath (own.getD (joinPath home ".config")) consoleName)

/-- The configuration file that is read when no other one is named. -/
def configurationPath? (vars : Variables) : Option String :=
  (configurationDirectory? vars).map fun directory => joinPath directory "config.toml"

/-- The layer of a file that is there. -/
def layerOfFile (files : Files) (path : String) : Except Failure Layer :=
  match files.read path with
  | .error fault => .error (.configuration (.unreadableFile path fault))
  | .ok bytes =>
    match Utf8.decode? bytes with
    | none => .error (.configuration (.unreadableFile path .badText))
    | some cs =>
      match Layer.ofText? cs with
      | none => .error (.configuration (.malformedFile path))
      | some layer => .ok layer

/-- The layer of the configuration file. One that is named has to be there. -/
def fileLayer (vars : Variables) (files : Files) (named : Option String) :
    Except Failure Layer :=
  match named with
  | some path =>
    if files.isThere path then layerOfFile files path
    else .error (.configuration (.noFile path))
  | none =>
    match configurationPath? vars with
    | some path => if files.isThere path then layerOfFile files path else .ok {}
    | none => .ok {}

namespace Settings

/-- The settings with the path among them expanded. -/
def expandPaths (settings : Settings) (vars : Variables) : Settings :=
  { settings with reportDirectory := expand vars settings.reportDirectory }

/-- The settings of defaults, configuration file and environment. -/
def load (vars : Variables) (files : Files) (named : Option String) :
    Except Failure Settings := do
  let layer ← fileLayer vars files named
  let settings : Settings := {}
  return ((settings.overlay layer).overlay (.ofVariables vars)).expandPaths vars

end Settings

end HostConsole
