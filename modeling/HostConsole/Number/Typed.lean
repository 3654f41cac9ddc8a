import HostConsole.Number.Bound

/-!
# Numbers as they are typed

## Main definitions

* `typedNatural?`: a natural number of decimal digits
* `typedInteger?`: an integer that fits 64 bits
-/

namespace HostConsole

/-- The number of some decimal digits, of which there must be one. -/
def decimalValue? (cs : List Char) : Option Nat :=
  if !cs.isEmpty && cs.all Char.isDigit then
    some (cs.foldl (fun n c => n * 10 + (c.toNat - 48)) 0)
  else none

/-- A natural number below a bound, perhaps with a plus. -/
def typedNatural? (bound : Nat) (s : String) : Option Nat :=
  let digits := match s.toList with
    | '+' :: rest => rest
    | cs => cs
  (decimalValue? digits).filter fun n => n < bound

/-- An integer that fits 64 bits, perhaps with a sign. -/
def typedInteger? (s : String) : Option Int :=
  let n : Option Int := match s.toList with
    | '+' :: rest => (decimalValue? rest).map Int.ofNat
    | '-' :: rest => (decimalValue? rest).map fun n => -Int.ofNat n
    | cs => (decimalValue? cs).map Int.ofNat
  n.filter fitsSigned

end HostConsole
