/-!
# Double precision

Positive numbers with a significand of at most 53 bits, `Double`. A decimal number is rounded to the
nearest of them, a half to the even neighbour, `Double.ofDecimal?`, and one of them is written with
the fewest digits that are rounded back to it, `Double.shortest`.
-/

namespace SealedPage.Json

/-- The number `significand * 2 ^ exponent`. -/
structure Double where
  significand : Nat
  exponent : Int
  deriving DecidableEq, Repr, Inhabited

/-- `m * base ^ e` as a fraction. -/
def fraction (m base : Nat) (e : Int) : Nat × Nat :=
  if 0 ≤ e then (m * Nat.pow base e.toNat, 1) else (m, Nat.pow base (-e).toNat)

/-- A quotient rounded to the nearest integer, a half to the even neighbour. -/
def roundQuotient (num den : Nat) : Nat :=
  let q := num / den
  let r := num % den
  if 2 * r < den then q
  else if den < 2 * r then q + 1
  else if q % 2 = 0 then q else q + 1

namespace Double

/-- The number of bits of a significand. -/
def precision : Nat := 53

/-- The least significand of full precision. -/
def leastFull : Nat := 1 <<< (precision - 1)

/-- The least exponent; with it, significands may be shorter. -/
def minExponent : Int := -1074

/-- The greatest exponent. -/
def maxExponent : Int := 971

/-- The number zero. -/
def zero : Double := ⟨0, minExponent⟩

/-- A quotient in units of `2 ^ exponent`, rounded. -/
def roundTo (exponent : Int) (num den : Nat) : Nat :=
  if 0 ≤ exponent then roundQuotient num (den <<< exponent.toNat)
  else roundQuotient (num <<< (-exponent).toNat) den

/-- The number nearest to a quotient, whatever its exponent is. -/
def nearest (num den : Nat) : Double :=
  let guess : Int := Int.ofNat num.log2 - Int.ofNat den.log2 - Int.ofNat precision
  let exponent := max guess minExponent
  let q := roundTo exponent num den
  if q < 2 * leastFull then ⟨q, exponent⟩
  else
    let q := roundTo (exponent + 1) num den
    if q < 2 * leastFull then ⟨q, exponent + 1⟩ else ⟨leastFull, exponent + 2⟩

/-- The number nearest to `m * 10 ^ e`, if it is not too large. What lies far outside the range is
not calculated. -/
def ofDecimal? (m : Nat) (e : Int) : Option Double :=
  let digits : Int := Int.ofNat (Nat.toDigits 10 m).length + e
  if m = 0 || digits < -330 then some zero
  else if 310 < digits then none
  else
    let (num, den) := fraction m 10 e
    let x := nearest num den
    if maxExponent < x.exponent then none else some x

/-! ## Whole parts -/

/-- A number as a fraction. -/
def toFraction (x : Double) : Nat × Nat :=
  fraction x.significand 2 x.exponent

/-- The integer below a number. -/
def floor (x : Double) : Nat :=
  x.toFraction.1 / x.toFraction.2

/-- The numerator of what lies above the integer below a number. -/
def remainder (x : Double) : Nat :=
  x.toFraction.1 % x.toFraction.2

/-- The sum of two numbers, rounded. -/
def add (x y : Double) : Double :=
  let (a, b) := x.toFraction
  let (c, d) := y.toFraction
  nearest (a * d + c * b) (b * d)

/-! ## Shortest digits -/

/-- The decimal exponent of the first digit of a positive fraction. -/
def leadingPlace (num den : Nat) : Int :=
  if den ≤ num then Int.ofNat (Nat.toDigits 10 (num / den)).length - 1
  else -Int.ofNat (Nat.toDigits 10 ((den - 1) / num)).length

/-- The integer nearest to `num / den`, if it lies between `low / den` and `high / den`, or else its
other neighbour, if that does. The bounds themselves count if `closed`. -/
def neighbour? (closed : Bool) (low num high den : Nat) : Option Nat :=
  let inside (d : Nat) : Bool :=
    if closed then low ≤ d * den && d * den ≤ high else low < d * den && d * den < high
  let d := num / den
  if inside d && inside (d + 1) then some (roundQuotient num den)
  else if inside d then some d
  else if inside (d + 1) then some (d + 1)
  else none

/-- Looks for digits that are rounded to `x`, down to the given decimal place and then further down.
The numbers rounded to `x` lie within half a unit of its last bit, or within a quarter below it if
the numbers below are closer together. -/
def digitsFrom (x : Double) : (count : Nat) → (place : Int) → Nat × Int
  | 0, place => (x.floor, place)
  | count + 1, place =>
    let below := if x.significand = leastFull && minExponent < x.exponent then 1 else 2
    let (unit, unitDen) := fraction 1 2 (x.exponent - 2)
    let (grid, gridDen) := fraction 1 10 place
    let scale := unit * gridDen
    match neighbour? (x.significand % 2 == 0) ((4 * x.significand - below) * scale)
        (4 * x.significand * scale) ((4 * x.significand + 2) * scale) (grid * unitDen) with
    | some d => (d, place)
    | none => digitsFrom x count (place - 1)

/-- The fewest digits that are rounded to a positive number, and the decimal place of the last one.
Seventeen digits are always enough. -/
def shortest (x : Double) : Nat × Int :=
  let (num, den) := x.toFraction
  digitsFrom x 17 (leadingPlace num den)

end Double

end SealedPage.Json
