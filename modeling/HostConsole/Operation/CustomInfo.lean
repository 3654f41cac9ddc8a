import HostConsole.Program.Basic

/-!
# Attached texts

Viewing and changing the texts attached to a system. A change tells whether it came about.

## Main definitions

* `CustomInfo.view`, `CustomInfo.add`, `CustomInfo.update`, `CustomInfo.remove`
-/

namespace HostConsole.CustomInfo

open Program

/-- The texts attached to a system, all of them or those under one key. -/
def view (machine : Machine) (key : Option String) : Program CustomInfo :=
  look (.customInfo machine.customInfoKey key)

/-- Attaches a text. It came about if the text is there afterwards. -/
def add (machine : Machine) (key value : String) : Program Bool := do
  let info : CustomInfo ← change (.addCustomInfo machine.customInfoKey key value)
  return info.holds key value

/-- Puts a text in place of another one. It came about if the text is there afterwards. -/
def update (machine : Machine) (key current new : String) : Program Bool := do
  let info : CustomInfo ← change (.updateCustomInfo machine.customInfoKey key current new)
  return info.holds key new

/-- Removes a text, or all texts under a key. -/
def remove (machine : Machine) (key : String) (value : Option String) : Program Bool :=
  change (.removeCustomInfo machine.customInfoKey key value)

end HostConsole.CustomInfo
