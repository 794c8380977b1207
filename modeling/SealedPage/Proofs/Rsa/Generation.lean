import Mathlib.NumberTheory.LucasPrimality
import SealedPage.Proofs.Rsa.Signature

/-!
# Keys from primes

Any two different odd primes and any odd exponent with an inverse make a key that is taken for
consistent and that is valid, `isConsistent_ofPrimes`. A number is shown to be prime by a base whose
powers reach one at the last exponent only, `prime_of_powMod`.
-/

namespace SealedPage.Rsa

/-- The key of two primes and two exponents. -/
def PrivateKey.ofPrimes (p q e d : Nat) : PrivateKey :=
  ⟨p * q, e, d, p, q, d % (p - 1), d % (q - 1), powMod q (p - 2) p⟩

/-- By Fermat's little theorem. -/
theorem powMod_sub_two {p q : Nat} (hp : p.Prime) (hpq : q.Coprime p) :
    powMod q (p - 2) p * q % p = 1 := by
  have htwo := hp.two_le
  have hfermat := Nat.ModEq.pow_totient hpq
  rw [Nat.totient_prime hp] at hfermat
  have hexponent : p - 1 = p - 2 + 1 := by omega
  calc powMod q (p - 2) p * q % p = q ^ (p - 2) * q % p := (powMod_modEq q (p - 2) p).mul_right q
    _ = q ^ (p - 1) % p := by rw [hexponent, Nat.pow_succ]
    _ = 1 % p := hfermat
    _ = 1 := Nat.mod_eq_of_lt hp.one_lt

/-- A key made of two odd primes has numbers that fit together. -/
theorem isConsistent_ofPrimes {p q e d : Nat} (hp : p.Prime) (hq : q.Prime) (hpq : p ≠ q)
    (hodd : p % 2 = 1 ∧ q % 2 = 1) (he : e % 2 = 1 ∧ e ≠ 1)
    (hd : d * e % Nat.lcm (p - 1) (q - 1) = 1) : (PrivateKey.ofPrimes p q e d).isConsistent := by
  have hcoprime : q.Coprime p := (Nat.coprime_primes hq hp).2 hpq.symm
  have hlt : powMod q (p - 2) p < p := by
    rw [powMod_eq]
    exact Nat.mod_lt _ hp.pos
  have hqInv := powMod_sub_two hp hcoprime
  have hprobable := isProbablePrime_of_prime hp
  have hprobable' := isProbablePrime_of_prime hq
  simp [PrivateKey.isConsistent, PrivateKey.ofPrimes, he, hodd, hp.one_lt, hq.one_lt, hd, hlt,
    hqInv, hprobable, hprobable']

/-- A number is prime if some base has as many powers as a prime allows. -/
theorem prime_of_powMod {n base : Nat} (hlast : powMod base (n - 1) n = 1)
    (hothers : ∀ r, r.Prime → r ∣ n - 1 → powMod base ((n - 1) / r) n ≠ 1) (hn : 1 < n) :
    n.Prime := by
  have hcast : ∀ exponent,
      ((powMod base exponent n : Nat) : ZMod n) = (base : ZMod n) ^ exponent := by
    intro exponent
    rw [powMod_eq, ZMod.natCast_mod, Nat.cast_pow]
  refine lucas_primality n (base : ZMod n) ?_ fun r hr hdvd hone => ?_
  · rw [← hcast, hlast, Nat.cast_one]
  · have hsame : ((powMod base ((n - 1) / r) n : Nat) : ZMod n) = ((1 : Nat) : ZMod n) := by
      rw [hcast, hone, Nat.cast_one]
    have hmod := (ZMod.natCast_eq_natCast_iff' _ _ _).1 hsame
    rw [powMod_eq, Nat.mod_mod, Nat.mod_eq_of_lt hn, ← powMod_eq] at hmod
    exact hothers r hr hdvd hmod

/-! ## Two keys of one pair of primes -/

/-- One more than a number with the factors two and three only. -/
def smoothPrime (a b : Nat) : Nat :=
  2 ^ a * 3 ^ b + 1

/-- Lucas' test for a number that is one more than a product of powers of two and three. -/
theorem prime_smoothPrime {a b : Nat} (base : Nat)
    (hlast : powMod base (smoothPrime a b - 1) (smoothPrime a b) = 1)
    (htwo : powMod base ((smoothPrime a b - 1) / 2) (smoothPrime a b) ≠ 1)
    (hthree : powMod base ((smoothPrime a b - 1) / 3) (smoothPrime a b) ≠ 1) :
    (smoothPrime a b).Prime := by
  have hpos : 0 < 2 ^ a * 3 ^ b := by positivity
  refine prime_of_powMod hlast (fun r hr hdvd => ?_) (by rw [smoothPrime]; omega)
  rw [smoothPrime, Nat.add_sub_cancel] at hdvd
  rcases (Nat.Prime.dvd_mul hr).1 hdvd with h | h
  · obtain rfl := (Nat.prime_dvd_prime_iff_eq hr Nat.prime_two).1 (hr.dvd_of_dvd_pow h)
    exact htwo
  · obtain rfl := (Nat.prime_dvd_prime_iff_eq hr Nat.prime_three).1 (hr.dvd_of_dvd_pow h)
    exact hthree

theorem prime_smoothPrime_551_622 : (smoothPrime 551 622).Prime :=
  prime_smoothPrime 7 (by decide +kernel) (by decide +kernel) (by decide +kernel)

theorem prime_smoothPrime_102_905 : (smoothPrime 102 905).Prime :=
  prime_smoothPrime 5 (by decide +kernel) (by decide +kernel) (by decide +kernel)

/-- A key of 3074 bits with the public exponent given; `c` makes the private one whole. -/
def smoothKey (e c : Nat) : PrivateKey :=
  .ofPrimes (smoothPrime 551 622) (smoothPrime 102 905) e ((1 + c * (2 ^ 551 * 3 ^ 905)) / e)

/-- A key with the usual exponent. -/
def usualKey : PrivateKey :=
  smoothKey 65537 28479

/-- A key with an exponent of 65 bits. -/
def wideKey : PrivateKey :=
  smoothKey (2 ^ 64 + 1) 15507558029481900953

theorem isConsistent_usualKey : usualKey.isConsistent :=
  isConsistent_ofPrimes prime_smoothPrime_551_622 prime_smoothPrime_102_905 (by decide +kernel)
    (by decide +kernel) (by decide) (by decide +kernel)

theorem isConsistent_wideKey : wideKey.isConsistent :=
  isConsistent_ofPrimes prime_smoothPrime_551_622 prime_smoothPrime_102_905 (by decide +kernel)
    (by decide +kernel) (by decide) (by decide +kernel)

end SealedPage.Rsa
