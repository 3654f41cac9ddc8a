import HostConsole.Failure

/-!
# References from options

## Main definitions

* `SystemReference.ofOptions`: the reference that a name or a uuid gives
-/

namespace HostConsole

/-- The reference that the two options give, of which exactly one has to be there. -/
def SystemReference.ofOptions : Option String → Option String → Except Failure SystemReference
  | some n, some u => .error (.conflictingSystemReference n u)
  | some n, none => .ok (.name n)
  | none, some u => .ok (.uuid u)
  | none, none => .error .missingSystemReference

end HostConsole
