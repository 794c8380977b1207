import Mathlib.FieldTheory.Finite.Basic
import Mathlib.Tactic.Ring
import SealedPage.Rsa.Power

/-!
# Powers and the strong test

Repeated squaring gives the power, `powMod_eq`. No prime fails the strong test,
`isProbablePrime_of_prime`: by Fermat's little theorem the last square is one, and modulo a prime
the only square roots of one are one and minus one.
-/

namespace SealedPage.Rsa

/-! ## Repeated squaring -/

/-- By induction on the bits of the exponent, the loop multiplies by the power. -/
theorem powModFrom_eq {m fuel : Nat} (base : Nat) {exponent done : Nat}
    (hfuel : exponent < 2 ^ fuel) (hdone : done % m = done) :
    powModFrom m fuel base exponent done = done * base ^ exponent % m := by
  induction fuel generalizing base exponent done with
  | zero =>
    obtain rfl : exponent = 0 := by omega
    rw [powModFrom, Nat.pow_zero, Nat.mul_one, hdone]
  | succ fuel ih =>
    rw [powModFrom]
    split
    · rename_i hzero
      rw [hzero, Nat.pow_zero, Nat.mul_one, hdone]
    · have hhalf : exponent / 2 < 2 ^ fuel := by
        rw [Nat.pow_succ] at hfuel
        omega
      have hsquare : (base * base % m) ^ (exponent / 2) ≡ base ^ (2 * (exponent / 2)) [MOD m] := by
        rw [Nat.pow_mul, Nat.pow_two]
        exact (Nat.mod_modEq (base * base) m).pow _
      have hdiv := Nat.div_add_mod exponent 2
      split
      · rename_i hodd
        rw [ih _ hhalf (Nat.mod_mod _ _)]
        have hexponent : done * base ^ exponent = done * base * base ^ (2 * (exponent / 2)) := by
          conv_lhs => rw [← hdiv, hodd]
          ring
        rw [hexponent]
        exact (Nat.mod_modEq (done * base) m).mul hsquare
      · rename_i heven
        rw [ih _ hhalf hdone]
        have hexponent : 2 * (exponent / 2) = exponent := by omega
        rw [hexponent] at hsquare
        exact hsquare.mul_left done

/-- Repeated squaring gives the power. -/
theorem powMod_eq (base exponent m : Nat) : powMod base exponent m = base ^ exponent % m := by
  rw [powMod, powModFrom_eq _ Nat.lt_log2_self (Nat.mod_mod _ _)]
  have hpow : 1 % m * (base % m) ^ exponent ≡ 1 * base ^ exponent [MOD m] :=
    (Nat.mod_modEq 1 m).mul ((Nat.mod_modEq base m).pow exponent)
  rw [Nat.one_mul] at hpow
  exact hpow

/-- Repeated squaring gives a number congruent to the power. -/
theorem powMod_modEq (base exponent m : Nat) :
    powMod base exponent m ≡ base ^ exponent [MOD m] := by
  rw [powMod_eq]
  exact Nat.mod_modEq _ _

/-! ## The strong test -/

/-- The factors two are split off. -/
theorem splitTwos_eq (fuel twos n : Nat) :
    2 ^ (splitTwos fuel twos n).1 * (splitTwos fuel twos n).2 = 2 ^ twos * n := by
  induction fuel generalizing twos n with
  | zero => rfl
  | succ fuel ih =>
    rw [splitTwos]
    split
    · rename_i heven
      rw [ih, Nat.pow_succ, Nat.mul_assoc, Nat.mul_div_cancel' (Nat.dvd_of_mod_eq_zero heven)]
    · rfl

section Prime

variable {n : Nat} (hn : n.Prime)

include hn

/-- Modulo a prime only one and minus one have the square one. -/
theorem eq_one_or_of_square {x : Nat} (hx : x < n) (h : x * x % n = 1) : x = 1 ∨ x = n - 1 := by
  have htwo := hn.two_le
  have hpos : 0 < x := by
    rcases Nat.eq_zero_or_pos x with rfl | hpos
    · simp at h
    · exact hpos
  have hdvd : n ∣ (x - 1) * (x + 1) := by
    have hproduct : (x - 1) * (x + 1) = x * x - 1 := by
      rw [Nat.mul_comm, ← Nat.mul_self_sub_mul_self_eq, Nat.mul_one]
    rw [hproduct, ← h]
    exact Nat.dvd_sub_mod (x * x)
  rcases hn.dvd_mul.1 hdvd with hlow | hhigh
  · have := Nat.eq_zero_of_dvd_of_lt hlow (by omega)
    omega
  · have := Nat.le_of_dvd (by omega) hhigh
    omega

/-- On the way of squares to one, the last of them that is not one is minus one. -/
theorem reachesMinusOne_of_pow {count x : Nat} (hx : x < n) (h : x ^ 2 ^ count % n = 1) :
    x = 1 ∨ reachesMinusOne n count x := by
  induction count generalizing x with
  | zero =>
    rw [Nat.pow_zero, Nat.pow_one, Nat.mod_eq_of_lt hx] at h
    exact Or.inl h
  | succ count ih =>
    have hsquare : (x * x % n) ^ 2 ^ count % n = 1 := by
      rw [← h, Nat.pow_succ', Nat.pow_mul, Nat.pow_two]
      exact (Nat.mod_modEq (x * x) n).pow _
    simp only [reachesMinusOne, Bool.or_eq_true, beq_iff_eq]
    rcases ih (Nat.mod_lt _ hn.pos) hsquare with hone | hreaches
    · exact (eq_one_or_of_square hn hx hone).imp_right Or.inl
    · exact Or.inr (Or.inr hreaches)

/-- A prime passes the strong test to every base that it does not divide. -/
theorem passesStrongTest_of_prime {base : Nat} (hbase : ¬ n ∣ base) : passesStrongTest n base := by
  have hcoprime : base.Coprime n := (hn.coprime_iff_not_dvd.2 hbase).symm
  have hfermat : base ^ (n - 1) % n = 1 := by
    have := Nat.ModEq.pow_totient hcoprime
    rw [Nat.totient_prime hn] at this
    exact Eq.trans this (Nat.mod_eq_of_lt hn.one_lt)
  have hsplit := splitTwos_eq n.log2 0 (n - 1)
  unfold passesStrongTest
  generalize splitTwos n.log2 0 (n - 1) = split at hsplit
  obtain ⟨twos, odd⟩ := split
  rw [Nat.pow_zero, Nat.one_mul] at hsplit
  have hpow : powMod base odd n ^ 2 ^ twos % n = 1 := by
    rw [← hfermat, ← hsplit, Nat.mul_comm, Nat.pow_mul]
    exact (powMod_modEq base odd n).pow _
  have hlt : powMod base odd n < n := by
    rw [powMod_eq]
    exact Nat.mod_lt _ hn.pos
  simpa using reachesMinusOne_of_pow hn hlt hpow

/-- No prime fails the test. -/
theorem isProbablePrime_of_prime : isProbablePrime n := by
  have hbases : ∀ p ∈ testBases, p.Prime := by
    decide
  rw [isProbablePrime, if_neg (by have := hn.two_le; omega)]
  split
  · rfl
  · rename_i hmem
    have hne : ∀ p ∈ testBases, p ≠ n := by
      rintro p hp rfl
      exact hmem (by simpa using hp)
    rw [if_neg]
    · rw [List.all_eq_true]
      intro p hp
      refine passesStrongTest_of_prime hn fun hdvd => ?_
      exact hne p hp ((Nat.prime_dvd_prime_iff_eq hn (hbases p hp)).1 hdvd).symm
    · simp only [List.any_eq_true, beq_iff_eq, not_exists, not_and]
      intro p hp hmod
      exact hne p hp ((Nat.prime_dvd_prime_iff_eq (hbases p hp) hn).1 (Nat.dvd_of_mod_eq_zero hmod))

end Prime

end SealedPage.Rsa
