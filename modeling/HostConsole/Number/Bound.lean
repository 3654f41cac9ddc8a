/-!
# Bounds of fixed widths

## Main definitions

* `bound32`, `bound64`: what natural numbers of 32 and of 64 bits stay below
* `signedBound`, `fitsSigned`: integers of 64 bits with a sign
-/

namespace HostConsole

/-- Natural numbers of 32 bits stay below this. -/
def bound32 : Nat := 0x100000000

/-- Natural numbers of 64 bits stay below this. -/
def bound64 : Nat := 0x10000000000000000

/-- Integers of 64 bits with a sign stay below this, and its negative is the least of them. -/
def signedBound : Nat := 0x8000000000000000

/-- Does the integer fit 64 bits with a sign? -/
def fitsSigned (n : Int) : Bool :=
  decide (-(signedBound : Int) ≤ n) && decide (n < signedBound)

end HostConsole
