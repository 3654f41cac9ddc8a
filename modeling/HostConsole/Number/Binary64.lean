/-!
# Numbers of binary floating point

The finite numbers of the 64-bit binary format as exact data: a sign, a mantissa of at most 53
bits and an exponent of two. Every operation is exact arithmetic on natural numbers followed by
one rounding to nearest, ties to the even mantissa.

## Main definitions

* `Binary64`: a finite number of the format
* `Binary64.ofRatio?`: the number nearest to a quotient, or `none` beyond the largest one
* `Binary64.mul?`, `Binary64.div?`: product and quotient, rounded
-/

namespace HostConsole

/-- The least mantissa with all its bits. -/
def Binary64.leastFull : Nat := 0x10000000000000

/-- Mantissas stay below this. -/
def Binary64.mantissaBound : Nat := 0x20000000000000

/-- The mantissa and the exponent are the only ones of their value: the mantissa has all its
bits unless the exponent is the least one. -/
abbrev Binary64.IsCanonical (mantissa : Nat) (exponent : Int) : Prop :=
  mantissa < mantissaBound ∧ -1074 ≤ exponent ∧ exponent ≤ 971 ∧
    (leastFull ≤ mantissa ∨ exponent = -1074)

/-- A finite number of the 64-bit binary format: plus or minus `mantissa * 2 ^ exponent`. Zero
has a sign too. -/
structure Binary64 where
  /-- Is the sign a minus? -/
  negative : Bool
  mantissa : Nat
  exponent : Int
  canonical : Binary64.IsCanonical mantissa exponent := by decide
  deriving DecidableEq, Repr

namespace Binary64

/-- Zero, with the given sign. -/
def zero (negative : Bool) : Binary64 :=
  { negative, mantissa := 0, exponent := -1074 }

instance : Inhabited Binary64 := ⟨zero false⟩

/-- Is the number a zero of either sign? -/
def isZero (x : Binary64) : Bool :=
  x.mantissa == 0

/-- The number with the other sign. -/
def neg (x : Binary64) : Binary64 :=
  { x with negative := !x.negative }

/-- The size of the number as a quotient of natural numbers. -/
def ratio (x : Binary64) : Nat × Nat :=
  if 0 ≤ x.exponent then (x.mantissa * Nat.pow 2 x.exponent.toNat, 1)
  else (x.mantissa, Nat.pow 2 (-x.exponent).toNat)

/-- The quotient `num / (den * 2 ^ exponent)`, as a quotient. -/
def scale (num den : Nat) (exponent : Int) : Nat × Nat :=
  if 0 ≤ exponent then (num, den * Nat.pow 2 exponent.toNat) else (num * Nat.pow 2 (-exponent).toNat, den)

/-- The natural number nearest to a quotient, of two equally near ones the even one. -/
def roundHalfEven (num den : Nat) : Nat :=
  let whole := num / den
  let rest := num % den
  if 2 * rest < den then whole
  else if den < 2 * rest then whole + 1
  else if whole % 2 = 0 then whole else whole + 1

/-- The exponent at which the quotient has 53 bits before the point, or the least exponent. -/
def exponentOf (num den : Nat) : Int :=
  let guess : Int := max (num.log2 - den.log2 - 53) (-1074)
  let (top, bottom) := scale num den guess
  if mantissaBound ≤ top / bottom then guess + 1 else guess

/-- The number nearest to a quotient; `none` when the quotient is too large for the format. -/
def ofRatio? (negative : Bool) (num den : Nat) : Option Binary64 :=
  if num = 0 then some (zero negative) else
  let exponent := exponentOf num den
  let (top, bottom) := scale num den exponent
  let rounded := roundHalfEven top bottom
  let (mantissa, exponent) :=
    if rounded = mantissaBound then (leastFull, exponent + 1) else (rounded, exponent)
  if canonical : IsCanonical mantissa exponent then
    some { negative, mantissa, exponent, canonical }
  else none

/-- The product, rounded. -/
def mul? (x y : Binary64) : Option Binary64 :=
  ofRatio? (x.negative != y.negative) (x.ratio.1 * y.ratio.1) (x.ratio.2 * y.ratio.2)

/-- The quotient, rounded; the divisor must not be zero. -/
def div? (x y : Binary64) : Option Binary64 :=
  ofRatio? (x.negative != y.negative) (x.ratio.1 * y.ratio.2) (x.ratio.2 * y.ratio.1)

@[simp] theorem isZero_zero (negative : Bool) : (zero negative).isZero = true := rfl

end Binary64

end HostConsole
