/-!
# Powers modulo a number

Modular powers by repeated squaring, `powMod`, and the strong pseudoprime test built on them,
`isProbablePrime`.
-/

namespace SealedPage.Rsa

/-- `done * base ^ exponent` modulo `m`, for an exponent below `2 ^ fuel`. -/
def powModFrom (m : Nat) : (fuel : Nat) → (base exponent done : Nat) → Nat
  | 0, _, _, done => done
  | fuel + 1, base, exponent, done =>
    if exponent = 0 then done
    else
      powModFrom m fuel (base * base % m) (exponent / 2)
        (if exponent % 2 = 1 then done * base % m else done)

/-- `base ^ exponent` modulo `m`. -/
def powMod (base exponent m : Nat) : Nat :=
  powModFrom m (exponent.log2 + 1) (base % m) exponent (1 % m)

/-- The number of factors two of a number below `2 ^ fuel`, and the odd rest. -/
def splitTwos : (fuel : Nat) → (twos n : Nat) → Nat × Nat
  | 0, twos, n => (twos, n)
  | fuel + 1, twos, n => if n % 2 = 0 then splitTwos fuel (twos + 1) (n / 2) else (twos, n)

/-- Whether one of the next `count` squares is -1 modulo `n`. -/
def reachesMinusOne (n : Nat) : (count : Nat) → Nat → Bool
  | 0, _ => false
  | count + 1, x => x == n - 1 || reachesMinusOne n count (x * x % n)

/-- Whether an odd number above two passes the strong test for one base. -/
def passesStrongTest (n base : Nat) : Bool :=
  let (twos, odd) := splitTwos n.log2 0 (n - 1)
  let x := powMod base odd n
  x == 1 || reachesMinusOne n twos x

/-- The bases that the strong test is run for. -/
def testBases : List Nat :=
  [2, 3, 5, 7, 11, 13, 17, 19, 23, 29, 31, 37, 41, 43, 47, 53]

/-- Whether a number is prime, for all that the strong test tells. -/
def isProbablePrime (n : Nat) : Bool :=
  if n < 2 then false
  else if testBases.contains n then true
  else if testBases.any fun p => n % p == 0 then false
  else testBases.all (passesStrongTest n)

end SealedPage.Rsa
