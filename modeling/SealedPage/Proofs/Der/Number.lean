import Mathlib.Tactic.Ring
import SealedPage.Der.Value
import SealedPage.Proofs.Text.Utf8

/-!
# Numbers and their bytes

A number is spelled by bytes, the highest first, and as many bytes as two spellings have, so many
numbers they tell apart: `number_injective`. The shortest spelling has no zero in front, and there
is one for each number: `number_numberBytes` and `numberBytes_number`.
-/

namespace SealedPage.Der

/-! ## Spellings -/

/-- Reading bytes behind a number shifts the number by as many bytes. -/
theorem foldl_number (n : Nat) (bytes : Bytes) :
    bytes.foldl (fun n b => 256 * n + b.toNat) n = n * 256 ^ bytes.length + number bytes := by
  induction bytes generalizing n with
  | nil => simp [number]
  | cons b bytes ih =>
    rw [number, List.foldl_cons, List.foldl_cons, ih, ih, List.length_cons]
    ring

theorem number_nil : number [] = 0 :=
  rfl

/-- The first byte counts most. -/
theorem number_cons (b : UInt8) (bytes : Bytes) :
    number (b :: bytes) = b.toNat * 256 ^ bytes.length + number bytes := by
  rw [number, List.foldl_cons, foldl_number, Nat.mul_zero, Nat.zero_add]

/-- Bytes behind others shift the number of those. -/
theorem number_append (bytes rest : Bytes) :
    number (bytes ++ rest) = number bytes * 256 ^ rest.length + number rest := by
  rw [number, List.foldl_append, foldl_number]
  rfl

/-- A number is below the power of 256 that its bytes leave room for. -/
theorem number_lt (bytes : Bytes) : number bytes < 256 ^ bytes.length := by
  induction bytes with
  | nil => simp [number_nil]
  | cons b bytes ih =>
    have hb : b.toNat + 1 ≤ 256 := b.toNat_lt
    calc number (b :: bytes) < b.toNat * 256 ^ bytes.length + 256 ^ bytes.length := by
          rw [number_cons]
          omega
      _ = (b.toNat + 1) * 256 ^ bytes.length := by ring
      _ ≤ 256 * 256 ^ bytes.length := Nat.mul_le_mul_right _ hb
      _ = 256 ^ (b :: bytes).length := by rw [List.length_cons, Nat.pow_succ, Nat.mul_comm]

/-- Of two spellings of the same length only one spells a number. -/
theorem number_injective {bytes bytes' : Bytes} (hlength : bytes.length = bytes'.length)
    (h : number bytes = number bytes') : bytes = bytes' := by
  induction bytes generalizing bytes' with
  | nil =>
    rw [List.length_nil, eq_comm, List.length_eq_zero_iff] at hlength
    exact hlength.symm
  | cons b bytes ih =>
    cases bytes' with
    | nil => simp at hlength
    | cons b' bytes' =>
      rw [List.length_cons, List.length_cons, Nat.add_right_cancel_iff] at hlength
      rw [number_cons, number_cons, ← hlength] at h
      have hlt := number_lt bytes
      have hlt' := number_lt bytes'
      rw [← hlength] at hlt'
      -- the first byte is the quotient by the weight of its place, the rest is the remainder
      have hpos : 0 < 256 ^ bytes.length := Nat.pow_pos (by decide)
      have hquotient : ∀ x r, r < 256 ^ bytes.length → (x * 256 ^ bytes.length + r) /
          256 ^ bytes.length = x := by
        intro x r hr
        rw [Nat.add_comm, Nat.add_mul_div_right _ _ hpos, Nat.div_eq_of_lt hr, Nat.zero_add]
      have hb : b.toNat = b'.toNat := by
        rw [← hquotient b.toNat _ hlt, h, hquotient b'.toNat _ hlt']
      have hrest : number bytes = number bytes' := by
        rw [hb] at h
        exact Nat.add_left_cancel h
      rw [UInt8.toNat_inj.1 hb, ih hlength hrest]

/-! ## The shortest spelling -/

/-- No zero stands in front. -/
def IsShortest (bytes : Bytes) : Prop :=
  bytes.head? ≠ some 0

/-- Without a leading zero the number needs all its bytes. -/
theorem IsShortest.le_number {b : UInt8} {bytes : Bytes} (h : IsShortest (b :: bytes)) :
    256 ^ bytes.length ≤ number (b :: bytes) := by
  have hb : b.toNat ≠ 0 := by
    intro hzero
    have hb : b = 0 := UInt8.toNat_inj.1 hzero
    exact h (by rw [hb, List.head?_cons])
  rw [number_cons]
  have := Nat.mul_le_mul_right (256 ^ bytes.length) (Nat.one_le_iff_ne_zero.2 hb)
  omega

/-- No number needs more bytes than there is room for it. -/
theorem IsShortest.length_le {bytes : Bytes} (h : IsShortest bytes) {k : Nat}
    (hlt : number bytes < 256 ^ k) : bytes.length ≤ k := by
  cases bytes with
  | nil => exact Nat.zero_le k
  | cons b bytes =>
    have hpow := Nat.lt_of_le_of_lt h.le_number hlt
    have hlength := (Nat.pow_lt_pow_iff_right (by decide)).1 hpow
    exact hlength

/-- There is one shortest spelling of a number. -/
theorem IsShortest.eq {bytes bytes' : Bytes} (h : IsShortest bytes) (h' : IsShortest bytes')
    (hnumber : number bytes = number bytes') : bytes = bytes' := by
  refine number_injective (Nat.le_antisymm (h.length_le ?_) (h'.length_le ?_)) hnumber
  · rw [hnumber]
    exact number_lt bytes'
  · rw [← hnumber]
    exact number_lt bytes

theorem toNat_toUInt8 (n : Nat) : n.toUInt8.toNat = n % 256 :=
  rfl

/-- With enough fuel, the shortest bytes of the number are put in front of the rest. -/
theorem numberBytesTo_eq (rest : Bytes) {fuel n : Nat} (h : n < 256 ^ fuel) :
    ∃ bytes, numberBytesTo rest fuel n = bytes ++ rest ∧ number bytes = n ∧ IsShortest bytes := by
  induction fuel generalizing rest n with
  | zero =>
    refine ⟨[], rfl, ?_, by simp [IsShortest]⟩
    rw [number_nil]
    omega
  | succ fuel ih =>
    unfold numberBytesTo
    by_cases hn : n = 0
    · rw [if_pos hn]
      exact ⟨[], rfl, by rw [number_nil, hn], by simp [IsShortest]⟩
    · rw [if_neg hn]
      have hdiv : n / 256 < 256 ^ fuel := by
        rw [Nat.pow_succ] at h
        exact Nat.div_lt_of_lt_mul (by rwa [Nat.mul_comm])
      obtain ⟨bytes, hbytes, hnumber, hshortest⟩ := ih (n.toUInt8 :: rest) hdiv
      have hspelled : number (bytes ++ [n.toUInt8]) = n := by
        rw [number_append, hnumber, number_cons, number_nil, toNat_toUInt8]
        simp only [List.length_singleton, List.length_nil, Nat.pow_zero, Nat.pow_one]
        omega
      refine ⟨bytes ++ [n.toUInt8], by rw [hbytes]; simp, hspelled, ?_⟩
      cases bytes with
      | nil =>
        -- the only byte is the number itself, which is not zero
        intro hzero
        simp only [List.nil_append, List.head?_cons, Option.some.injEq] at hzero
        rw [hzero] at hspelled
        exact hn hspelled.symm
      | cons b bytes => exact hshortest

/-- The fuel that `numberBytes` begins with is enough. -/
theorem lt_pow_log2 (n : Nat) : n < 256 ^ (n.log2 / 8 + 1) := by
  have hlog : n < 2 ^ (n.log2 + 1) := Nat.lt_log2_self
  have hle : 2 ^ (n.log2 + 1) ≤ 2 ^ (8 * (n.log2 / 8 + 1)) :=
    Nat.pow_le_pow_right (by decide) (by omega)
  rw [Nat.pow_mul] at hle
  exact Nat.lt_of_lt_of_le hlog hle

/-- The bytes of a number spell it, with no leading zero. -/
theorem numberBytes_spec (n : Nat) : number (numberBytes n) = n ∧ IsShortest (numberBytes n) := by
  obtain ⟨bytes, hbytes, hnumber, hshortest⟩ := numberBytesTo_eq [] (lt_pow_log2 n)
  rw [numberBytes, hbytes, List.append_nil]
  exact ⟨hnumber, hshortest⟩

/-- A number is read from its bytes again. -/
theorem number_numberBytes (n : Nat) : number (numberBytes n) = n :=
  (numberBytes_spec n).1

theorem isShortest_numberBytes (n : Nat) : IsShortest (numberBytes n) :=
  (numberBytes_spec n).2

/-- Bytes without a leading zero are the only ones for their number. -/
theorem numberBytes_number {bytes : Bytes} (h : IsShortest bytes) :
    numberBytes (number bytes) = bytes :=
  (isShortest_numberBytes _).eq h (number_numberBytes _)

/-- A number below a power of 256 has no more bytes than the exponent. -/
theorem length_numberBytes_le {n k : Nat} (h : n < 256 ^ k) : (numberBytes n).length ≤ k :=
  (isShortest_numberBytes n).length_le (by rwa [number_numberBytes])

/-- A number from a power of 256 on has more bytes than the exponent. -/
theorem lt_length_numberBytes {n k : Nat} (h : 256 ^ k ≤ n) : k < (numberBytes n).length := by
  have hlt := number_lt (numberBytes n)
  rw [number_numberBytes] at hlt
  exact (Nat.pow_lt_pow_iff_right (by decide)).1 (Nat.lt_of_le_of_lt h hlt)

end SealedPage.Der
