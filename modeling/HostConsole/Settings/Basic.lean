/-!
# Settings

The settings of the console come in layers. A layer gives some of them; laid over others, it
wins where it gives something.

## Main definitions

* `Settings`: the settings, with their defaults
* `Layer`: some of the settings
* `Settings.overlay`: a layer laid over the settings
-/

namespace HostConsole

/-- The settings. Times are in seconds; no timeout means to wait as long as it takes. -/
structure Settings where
  url : String := "https://localhost/katello/api"
  username : Option String := none
  password : Option String := none
  /-- Are certificates accepted that nobody vouches for? -/
  insecure : Bool := false
  requestTimeout : Option Nat := none
  org : Option String := none
  taskTimeout : Option Nat := none
  /-- The directory that reports are saved to. -/
  reportDirectory : String := "."
  deriving DecidableEq, Repr

/-- Some of the settings. A layer can also give a timeout that says to wait without limit. -/
structure Layer where
  url : Option String := none
  username : Option String := none
  password : Option String := none
  insecure : Option Bool := none
  requestTimeout : Option (Option Nat) := none
  org : Option String := none
  taskTimeout : Option (Option Nat) := none
  reportDirectory : Option String := none
  deriving DecidableEq, Repr

namespace Settings

/-- The settings under a layer. -/
def overlay (settings : Settings) (layer : Layer) : Settings :=
  { url := layer.url.getD settings.url
    username := layer.username.or settings.username
    password := layer.password.or settings.password
    insecure := layer.insecure.getD settings.insecure
    requestTimeout := layer.requestTimeout.getD settings.requestTimeout
    org := layer.org.or settings.org
    taskTimeout := layer.taskTimeout.getD settings.taskTimeout
    reportDirectory := layer.reportDirectory.getD settings.reportDirectory }

/-- A layer that gives nothing changes nothing. -/
@[simp] theorem overlay_empty (settings : Settings) : settings.overlay {} = settings := by
  cases settings; rfl

/-- How long a task is waited for, in milliseconds. -/
def taskTimeoutMillis (settings : Settings) : Option Nat :=
  settings.taskTimeout.map (· * 1000)

end Settings

end HostConsole
