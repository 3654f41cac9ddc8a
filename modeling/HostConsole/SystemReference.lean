/-!
# References to systems

## Main definitions

* `SystemReference`: how a user points at a system
-/

namespace HostConsole

/-- How a user points at a system: by its name or by its uuid. -/
inductive SystemReference where
  | name (name : String)
  | uuid (uuid : String)
  deriving DecidableEq, Repr

namespace SystemReference

/-- The text that points at the system. -/
def text : SystemReference → String
  | name s | uuid s => s

/-- The name, when it is one. -/
def name? : SystemReference → Option String
  | name s => some s
  | uuid _ => none

/-- The uuid, when it is one. -/
def uuid? : SystemReference → Option String
  | name _ => none
  | uuid s => some s

end SystemReference

end HostConsole
