/-!
# Name and version

## Main definitions

* `consoleName`, `consoleVersion`: the name and the version of the console
* `consoleAgent`: both, as requests give them
-/

namespace HostConsole

/-- The name of the console. -/
def consoleName : String := "katello-system"

/-- The version of the console. -/
def consoleVersion : String := "0.3.0"

/-- Name and version, as requests give them. -/
def consoleAgent : String := consoleName ++ "/" ++ consoleVersion

end HostConsole
