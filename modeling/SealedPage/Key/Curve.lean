import SealedPage.Der.Value
import SealedPage.Rsa.Power

/-!
# The curve P-256

The points of the curve `y² = x³ - 3x + b` over the field of `prime` elements, `Point`, their
addition, and the forms in which points are written, `point?`. Keys on this curve are recognised,
and a private key is compared with the point that stands beside it, `isPrivate`.
-/

namespace SealedPage.Key.Curve

/-- The number of elements of the field. -/
def prime : Nat :=
  0xFFFFFFFF00000001000000000000000000000000FFFFFFFFFFFFFFFFFFFFFFFF

/-- The constant of the curve. -/
def constant : Nat :=
  0x5AC635D8AA3A93E7B3EBBD55769886BC651D06B0CC53B0F63BCE3C3E27D2604B

/-- The number of points. -/
def order : Nat :=
  0xFFFFFFFF00000000FFFFFFFFFFFFFFFFBCE6FAADA7179E84F3B9CAC2FC632551

/-- The number of bytes of a coordinate. -/
def width : Nat := 32

/-- A point: at infinity, or with its two coordinates. -/
inductive Point where
  | infinity
  | affine (x y : Nat)
  deriving DecidableEq, Repr

/-- The point that all others are multiples of. -/
def generator : Point :=
  .affine 0x6B17D1F2E12C4247F8BCE6E563A440F277037D812DEB33A0F4A13945D898C296
    0x4FE342E2FE1A7F9B8EE7EB4A7C0F9E162BCE33576B315ECECBB6406837BF51F5

/-! ## Points -/

/-- The difference of two elements of the field. -/
def sub (a b : Nat) : Nat :=
  (a + (prime - b % prime)) % prime

/-- The right side of the equation of the curve. -/
def cubic (x : Nat) : Nat :=
  sub (x * x * x + constant) (3 * x)

/-- Whether coordinates are those of a point. -/
def isOn (x y : Nat) : Bool :=
  x < prime && y < prime && y * y % prime == cubic x

/-- The quotient of two elements of the field. -/
def divide (a b : Nat) : Nat :=
  a * Rsa.powMod b (prime - 2) prime % prime

/-- The third point on the line of the given slope through two points, mirrored. -/
def alongLine (slope x₁ y₁ x₂ : Nat) : Point :=
  let x := sub (slope * slope) (x₁ + x₂)
  .affine x (sub (slope * sub x₁ x) y₁)

/-- The sum of two points. -/
def add : Point → Point → Point
  | .infinity, q => q
  | p, .infinity => p
  | .affine x₁ y₁, .affine x₂ y₂ =>
    if x₁ = x₂ then
      if (y₁ + y₂) % prime = 0 then .infinity
      else alongLine (divide (sub (3 * x₁ * x₁) 3) (2 * y₁)) x₁ y₁ x₂
    else alongLine (divide (sub y₂ y₁) (sub x₂ x₁)) x₁ y₁ x₂

/-- `sum` and the multiple of a point by a number below `2 ^ bits`. -/
def multiplyFrom (sum : Point) : (bits : Nat) → Nat → Point → Point
  | 0, _, _ => sum
  | bits + 1, k, p =>
    if k = 0 then sum
    else multiplyFrom (if k % 2 = 1 then add sum p else sum) bits (k / 2) (add p p)

/-- The multiple of a point. -/
def multiply (k : Nat) (p : Point) : Point :=
  multiplyFrom .infinity (k.log2 + 1) k p

/-! ## Reading points -/

/-- The point with a given first coordinate whose second one is odd or even. -/
def lift? (x : Nat) (odd : Bool) : Option Point :=
  let root := Rsa.powMod (cubic x) ((prime + 1) / 4) prime
  let y := if (root % 2 == 1) == odd then root else prime - root
  if isOn x y then some (.affine x y) else none

/-- The point that bytes write: a single zero for infinity, the first coordinate behind a byte that
says whether the second is odd, or both coordinates behind a byte that may say the same. -/
def point? : Bytes → Option Point
  | [] => none
  | form :: rest =>
    if form = 0x00 then if rest.isEmpty then some .infinity else none
    else if form = 0x02 || form = 0x03 then
      if rest.length = width then lift? (Der.number rest) (form = 0x03) else none
    else if form = 0x04 || form = 0x06 || form = 0x07 then
      let x := Der.number (rest.take width)
      let y := Der.number (rest.drop width)
      if rest.length = 2 * width && isOn x y && (form = 0x04 || (y % 2 == 1) == (form = 0x07)) then
        some (.affine x y)
      else none
    else none

/-- Whether bytes are the public part of a key: a point that is not at infinity. -/
def isPublic (bytes : Bytes) : Bool :=
  match point? bytes with
  | some (.affine _ _) => true
  | _ => false

/-- Whether a number is the private part of a key, and the bytes beside it, if there are any, write
its point. -/
def isPrivate (secret : Nat) (bytes : Option Bytes) : Bool :=
  0 < secret && secret < order &&
    match bytes with
    | none => true
    | some bytes => point? bytes == some (multiply secret generator)

end SealedPage.Key.Curve
