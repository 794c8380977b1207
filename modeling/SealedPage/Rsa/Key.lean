import SealedPage.Rsa.Power

/-!
# RSA keys

The numbers of a key, `PublicKey` and `PrivateKey`, and the conditions that they have to meet before
a private key is used, `isConsistent`, and before a public key checks anything, `isAffordable`.
-/

namespace SealedPage.Rsa

/-- A public key. -/
structure PublicKey where
  n : Nat
  e : Nat
  deriving DecidableEq, Repr, Inhabited

/-- A private key with its two primes and the numbers derived from them. -/
structure PrivateKey where
  n : Nat
  e : Nat
  d : Nat
  p : Nat
  q : Nat
  dp : Nat
  dq : Nat
  qInv : Nat
  deriving DecidableEq, Repr, Inhabited

/-- The number of bits of a number. -/
def bitLength (n : Nat) : Nat :=
  if n = 0 then 0 else n.log2 + 1

namespace PublicKey

/-- The size of a key in bits. -/
def bits (k : PublicKey) : Nat :=
  bitLength k.n

/-- The size of a key in bytes. -/
def bytes (k : PublicKey) : Nat :=
  (k.bits + 7) / 8

/-- Whether the exponent of a key fits its modulus: it is odd, at least three and below the
modulus. -/
def isUsable (k : PublicKey) : Bool :=
  3 ≤ k.e && k.e % 2 == 1 && k.e < k.n

/-- The greatest size of a modulus that signatures are checked with, in bits. -/
def maxModulusBits : Nat := 16384

/-- Up to this size of the modulus, in bits, the exponent may have any size. -/
def smallModulusBits : Nat := 3072

/-- The greatest size of the exponent beside a larger modulus, in bits. -/
def maxExponentBits : Nat := 64

/-- Whether the cost of checking a signature is bounded: a large modulus demands a small
exponent. -/
def isAffordable (k : PublicKey) : Bool :=
  k.bits ≤ maxModulusBits && (k.bits ≤ smallModulusBits || bitLength k.e ≤ maxExponentBits)

end PublicKey

namespace PrivateKey

/-- The public half of a key. -/
def publicKey (k : PrivateKey) : PublicKey :=
  ⟨k.n, k.e⟩

/-- The size of a key in bits. -/
def bits (k : PrivateKey) : Nat :=
  bitLength k.n

/-- Whether the numbers of a key belong together: the modulus is the product of two odd primes, the
exponents are inverse to each other modulo both primes less one, and the derived numbers are what
they have to be. -/
def isConsistent (k : PrivateKey) : Bool :=
  k.n == k.p * k.q && k.e % 2 == 1 && k.e != 1 &&
  k.p % 2 == 1 && k.q % 2 == 1 && 1 < k.p && 1 < k.q &&
  k.d * k.e % Nat.lcm (k.p - 1) (k.q - 1) == 1 &&
  k.dp == k.d % (k.p - 1) && k.dq == k.d % (k.q - 1) &&
  k.qInv < k.p && k.qInv * k.q % k.p == 1 &&
  isProbablePrime k.p && isProbablePrime k.q

end PrivateKey

end SealedPage.Rsa
