import HostConsole.Json.Basic

/-!
# Numerals

The number that the digits of a JSON text denote. Digits are gathered into a significand as long
as it fits 64 bits; the digits before the point that no longer fit count as powers of ten, and
those behind it are passed over. The significand is then rounded and multiplied or divided by one
rounded power of ten.

## Main definitions

* `Numeral`: the digits of a number, by their part
* `Numeral.value?`: the number that they denote, or `none` beyond the largest one
-/

namespace HostConsole.Json

/-- The digits of a number as they are written. The fraction is `none` without a point, and the
exponent is `none` without a letter for it. -/
structure Numeral where
  negative : Bool
  whole : List Nat
  fraction : Option (List Nat)
  /-- Is the exponent negative, and its digits. -/
  exponent : Option (Bool × List Nat)
  deriving DecidableEq, Repr

/-- A significand stays below this bound. -/
def significandBound : Nat := bound64

/-- An exponent that is written larger than this denotes zero or no number. -/
def largestExponent : Nat := 2147483647

/-- Gathers digits behind a significand as long as it stays below its bound. Gives the
significand and how many digits are left over. -/
def gather (significand : Nat) : List Nat → Nat × Nat
  | [] => (significand, 0)
  | d :: rest =>
    if significand * 10 + d < significandBound then gather (significand * 10 + d) rest
    else (significand, rest.length + 1)

/-- The number that digits denote. -/
def ofDigits (digits : List Nat) : Nat :=
  digits.foldl (fun n d => n * 10 + d) 0

/-- The rounded power of ten, up to the largest one that is a number. -/
def powerOfTen? (exponent : Nat) : Option Binary64 :=
  if exponent ≤ 308 then Binary64.ofRatio? false (Nat.pow 10 exponent) 1 else none

/-- The number times a power of ten; `none` beyond the largest number. A power too small for the
format is divided by in steps, of which the third one always arrives at zero. -/
def timesPowerOfTen : Nat → Binary64 → Int → Option Binary64
  | 0, x, _ => some x
  | steps + 1, x, exponent =>
    match powerOfTen? exponent.natAbs with
    | some power => if 0 ≤ exponent then x.mul? power else x.div? power
    | none =>
      if x.isZero then some x
      else if 0 ≤ exponent then none
      else do
        let power ← powerOfTen? 308
        let x ← x.div? power
        timesPowerOfTen steps x (exponent + 308)

/-- A significand with a power of ten and a sign. -/
def floatOf? (negative : Bool) (significand : Nat) (exponent : Int) : Option Binary64 := do
  let x ← Binary64.ofRatio? false significand 1
  let x ← timesPowerOfTen 4 x exponent
  pure (if negative then x.neg else x)

/-- Is the exponent written larger than any exponent counts? -/
def Numeral.hasHugeExponent (n : Numeral) : Bool :=
  match n.exponent with
  | some (_, digits) => largestExponent < ofDigits digits
  | none => false

/-- The number that the digits denote; `none` beyond the largest one. -/
def Numeral.value? (n : Numeral) : Option Number :=
  let (whole, left) := gather 0 n.whole
  if n.fraction.isNone && n.exponent.isNone && left == 0 then
    if !n.negative then some (.integer whole)
    else if 0 < whole ∧ whole ≤ signedBound then some (.integer (-whole))
    else (floatOf? true whole 0).map .float
  else
    let (significand, used) :=
      match n.fraction with
      | none => (whole, 0)
      | some digits =>
        let (significand, dropped) := gather whole digits
        (significand, digits.length - dropped)
    let place : Int := left - used
    match n.exponent with
    | none => (floatOf? n.negative significand place).map .float
    | some (down, digits) =>
      if n.hasHugeExponent then
        if significand = 0 ∨ down then some (.float (.zero n.negative)) else none
      else
        let shift : Int := ofDigits digits
        (floatOf? n.negative significand (if down then place - shift else place + shift)).map .float

end HostConsole.Json
