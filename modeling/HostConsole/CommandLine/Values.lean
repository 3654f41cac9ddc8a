import HostConsole.CommandLine.Grammar
import HostConsole.Number.Typed

/-!
# Values of options

## Main definitions

* `quantity?`: a quantity as it is typed
* `ValueKind.check`: does a text fit a kind of value?
-/

namespace HostConsole.CommandLine

/-- A quantity: an integer from zero up to the largest one of 32 bits. -/
def quantity? (s : String) : Option Nat :=
  match typedInteger? s with
  | some n => if 0 ≤ n ∧ n < bound32 then some n.toNat else none
  | none => none

/-- Does a text fit a kind of value? -/
def ValueKind.check (kind : ValueKind) (s : String) : Except Rejection Unit :=
  match kind with
  | .text => .ok ()
  | .path => if s.isEmpty then .error .invalidValue else .ok ()
  | .natural => if (typedNatural? bound64 s).isSome then .ok () else .error .valueValidation
  | .quantity => if (quantity? s).isSome then .ok () else .error .valueValidation
  | .oneOf words => if words.contains s then .ok () else .error .invalidValue

end HostConsole.CommandLine
