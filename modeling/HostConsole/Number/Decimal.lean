import HostConsole.Number.Binary64

/-!
# Decimal text of binary numbers

A number is written with the fewest digits that read back as the same number. The digits are
found on decimal grids of growing fineness: the first grid that has a point among the reals
rounding to the number gives them.

## Main definitions

* `Interval`: the reals that round to a number
* `Binary64.shortest`: the shortest digits and their decimal exponent
* `Binary64.renderWith`: the text of a number in a format
-/

namespace HostConsole

/-- The reals that round to a number, as numerators over one common denominator. -/
structure Interval where
  low : Nat
  value : Nat
  high : Nat
  /-- The common denominator. -/
  unit : Nat
  /-- Do the two ends round to the number as well? -/
  closed : Bool

namespace Interval

/-- Does the quotient lie in the interval? -/
def contains (i : Interval) (num den : Nat) : Bool :=
  if i.closed then i.low * den ≤ num * i.unit && num * i.unit ≤ i.high * den
  else i.low * den < num * i.unit && num * i.unit < i.high * den

end Interval

namespace Binary64

/-- The reals that round to the number. Below a power of two the neighbour is twice as near. -/
def interval (x : Binary64) : Interval :=
  let half := if x.mantissa = leastFull ∧ x.exponent ≠ -1074 then 1 else 2
  let (num, den) := scale 1 1 (-x.exponent)
  { low := (4 * x.mantissa - half) * num
    value := 4 * x.mantissa * num
    high := (4 * x.mantissa + 2) * num
    unit := 4 * den
    closed := x.mantissa % 2 = 0 }

/-- How many digits the whole part of a quotient has; zero or less for a quotient below one,
counting down the zeros behind the point. -/
def wholeDigits (num den : Nat) : Int :=
  let guess : Int := (Nat.toDigits 10 num).length - (Nat.toDigits 10 den).length
  let reached := if 0 ≤ guess then den * Nat.pow 10 guess.toNat ≤ num
    else den ≤ num * Nat.pow 10 (-guess).toNat
  if reached then guess + 1 else guess

/-- The point of the grid of that power of ten that lies in the interval, as a multiple of the grid's
unit; of two the nearer one, of two equally near ones the even one. -/
def onGrid? (i : Interval) (place : Int) : Option Nat :=
  let (up, down) := if 0 ≤ place then (Nat.pow 10 place.toNat, 1) else (1, Nat.pow 10 (-place).toNat)
  let below := i.value * down / (i.unit * up)
  let inside := fun n => i.contains (n * up) down
  let nearBelow := 2 * i.value * down ≤ (2 * below + 1) * (i.unit * up)
  let tie := 2 * i.value * down = (2 * below + 1) * (i.unit * up)
  match inside below, inside (below + 1) with
  | true, false => some below
  | false, true => some (below + 1)
  | false, false => none
  | true, true =>
    if tie then (if below % 2 = 0 then some below else some (below + 1))
    else if nearBelow then some below else some (below + 1)

/-- The number without the zeros at its end, and how many there were, at most `fuel`. -/
def dropZeros : Nat → Nat → Nat × Nat
  | 0, n => (n, 0)
  | fuel + 1, n =>
    if n ≠ 0 ∧ n % 10 = 0 then
      let (digits, zeros) := dropZeros fuel (n / 10)
      (digits, zeros + 1)
    else (n, 0)

/-- The shortest digits that read back as the size of a number other than zero, and the power
of ten they stand for. Seventeen digits are always enough. -/
def shortest (x : Binary64) : Nat × Int :=
  let i := x.interval
  let whole := wholeDigits i.value i.unit
  let found := (List.range 17).findSome? fun count =>
    let place := whole - (count + 1 : Nat)
    (onGrid? i place).map fun digits => (digits, place)
  match found with
  | some (digits, place) =>
    let (digits, zeros) := dropZeros 18 digits
    (digits, place + zeros)
  | none => (0, 0)

/-- How numbers are written: positional when the first digit stands for a power of ten from
`leastPower` up to below `powerLimit`, and with an exponent of two digits at least otherwise. -/
structure NumberFormat where
  leastPower : Int
  powerLimit : Int
  /-- The least number of digits of an exponent. -/
  exponentWidth : Nat

/-- Numbers are positional from a hundred-thousandth up to below ten to the sixteenth. -/
def textFormat : NumberFormat :=
  { leastPower := -5, powerLimit := 16, exponentWidth := 2 }

/-- Digits with the point so placed that `whole` of them stand before it. -/
def positional (digits : List Char) (whole : Int) : List Char :=
  if whole ≤ 0 then
    '0' :: '.' :: (List.replicate (-whole).toNat '0' ++ digits)
  else if digits.length ≤ whole.toNat then
    digits ++ List.replicate (whole.toNat - digits.length) '0' ++ ['.', '0']
  else digits.take whole.toNat ++ '.' :: digits.drop whole.toNat

/-- Digits with one of them before the point, and an exponent. -/
def scientific (format : NumberFormat) (digits : List Char) (power : Int) : List Char :=
  let head := match digits with
    | [] => []
    | [d] => [d]
    | d :: more => d :: '.' :: more
  let size := Nat.toDigits 10 power.natAbs
  head ++ ['e', if power < 0 then '-' else '+'] ++
    (List.replicate (format.exponentWidth - size.length) '0' ++ size)

/-- The text of a number in a format. -/
def renderWith (format : NumberFormat) (x : Binary64) : List Char :=
  let sign := if x.negative then ['-'] else []
  if x.isZero then sign ++ ['0', '.', '0']
  else
    let (value, place) := x.shortest
    let digits := Nat.toDigits 10 value
    let whole : Int := place + digits.length
    sign ++
      if format.leastPower < whole ∧ whole ≤ format.powerLimit then positional digits whole
      else scientific format digits (whole - 1)

end Binary64

end HostConsole
