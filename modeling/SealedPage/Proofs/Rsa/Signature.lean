import SealedPage.Proofs.Der.Number
import SealedPage.Proofs.Rsa.Power
import SealedPage.Rsa.Signature

/-!
# What is signed is what is verified

Raising to the two exponents of a valid key, in either order, gives back every number below the
modulus, `powMod_powMod`. Numbers below the modulus and bytes as long as the modulus determine each
other. So a signature is verified if and only if it is the one that signing gives, `verify_iff`, as
far as the key may be used at all.

The block of a message is a fixed front with the digest behind it, `messageBlock?_eq`. Messages of
different digests have different blocks, and so no signature in common.
-/

namespace SealedPage.Rsa

open Hash.Sha256 (digest length_digest)

/-! ## Valid keys -/

/-- The numbers of a key are what the scheme asks for: the modulus is the product of two different
primes, and the exponents are inverse to each other modulo both primes less one. -/
structure PrivateKey.IsValid (k : PrivateKey) : Prop where
  prime_p : k.p.Prime
  prime_q : k.q.Prime
  p_ne_q : k.p ≠ k.q
  n_eq : k.n = k.p * k.q
  inverse_p : k.e * k.d ≡ 1 [MOD k.p - 1]
  inverse_q : k.e * k.d ≡ 1 [MOD k.q - 1]

/-- A key whose numbers belong together is valid as soon as its factors are prime. -/
theorem PrivateKey.IsValid.of_prime {k : PrivateKey} (hk : k.isConsistent) (hp : k.p.Prime)
    (hq : k.q.Prime) : k.IsValid := by
  simp only [isConsistent, Bool.and_eq_true, beq_iff_eq] at hk
  obtain ⟨⟨⟨⟨⟨⟨⟨⟨⟨⟨⟨⟨⟨hn, -⟩, -⟩, -⟩, -⟩, -⟩, -⟩, hinverse⟩, -⟩, -⟩, -⟩, hqInv⟩, -⟩, -⟩ := hk
  have hlcm : k.e * k.d ≡ 1 [MOD Nat.lcm (k.p - 1) (k.q - 1)] := by
    rw [Nat.mul_comm]
    generalize Nat.lcm (k.p - 1) (k.q - 1) = m at hinverse
    have hone : 1 % m = 1 := by
      conv_lhs => rw [← hinverse, Nat.mod_mod]
      exact hinverse
    exact Eq.trans hinverse hone.symm
  refine ⟨hp, hq, ?_, hn, hlcm.of_dvd (Nat.dvd_lcm_left _ _), hlcm.of_dvd (Nat.dvd_lcm_right _ _)⟩
  -- a prime has no inverse modulo itself
  intro hpq
  rw [← hpq, Nat.mul_mod_left] at hqInv
  simp at hqInv

/-! ## The power and its inverse -/

/-- Fermat's little theorem, for exponents that are one up to a multiple of the prime less one. -/
theorem pow_modEq_self {p a : Nat} (hp : p.Prime) (hpos : 0 < a) (ha : a ≡ 1 [MOD p - 1])
    (x : Nat) :
    x ^ a ≡ x [MOD p] := by
  by_cases hx : p ∣ x
  · have hzero : x ≡ 0 [MOD p] := (Nat.modEq_zero_iff_dvd).2 hx
    calc x ^ a ≡ 0 ^ a [MOD p] := hzero.pow a
      _ = 0 := Nat.zero_pow hpos
      _ ≡ x [MOD p] := hzero.symm
  · have hcoprime : x.Coprime p := (hp.coprime_iff_not_dvd.2 hx).symm
    have hfermat := Nat.ModEq.pow_totient hcoprime
    rw [Nat.totient_prime hp] at hfermat
    obtain ⟨c, hc⟩ := (Nat.modEq_iff_dvd' hpos).1 ha.symm
    have hexponent : a = (p - 1) * c + 1 := by omega
    calc x ^ a = (x ^ (p - 1)) ^ c * x := by rw [hexponent, Nat.pow_succ, Nat.pow_mul]
      _ ≡ 1 ^ c * x [MOD p] := (hfermat.pow c).mul_right x
      _ = x := by rw [Nat.one_pow, Nat.one_mul]

namespace PrivateKey.IsValid

variable {k : PrivateKey} (hk : k.IsValid)

include hk

theorem exponents_pos : 0 < k.e * k.d := by
  rw [Nat.pos_iff_ne_zero]
  intro hzero
  -- one of the two primes is odd, and zero is not one modulo an even number
  have hne : ∀ p : Nat, p.Prime → k.e * k.d ≡ 1 [MOD p - 1] → p = 2 := by
    intro p hp hinverse
    rw [hzero] at hinverse
    have hdvd := (Nat.modEq_iff_dvd' (Nat.zero_le 1)).1 hinverse
    have := Nat.dvd_one.1 hdvd
    omega
  exact hk.p_ne_q ((hne _ hk.prime_p hk.inverse_p).trans (hne _ hk.prime_q hk.inverse_q).symm)

theorem coprime : k.p.Coprime k.q :=
  (Nat.coprime_primes hk.prime_p hk.prime_q).2 hk.p_ne_q

theorem n_pos : 0 < k.n := by
  rw [hk.n_eq]
  exact Nat.mul_pos hk.prime_p.pos hk.prime_q.pos

/-- Also for numbers that share a factor with the modulus. -/
theorem pow_exponents (x : Nat) : x ^ (k.e * k.d) ≡ x [MOD k.n] := by
  rw [hk.n_eq]
  exact (Nat.modEq_and_modEq_iff_modEq_mul hk.coprime).1
    ⟨pow_modEq_self hk.prime_p hk.exponents_pos hk.inverse_p x,
      pow_modEq_self hk.prime_q hk.exponents_pos hk.inverse_q x⟩

/-- Raising to one exponent after the other, whichever comes first. -/
theorem powMod_powMod {a b : Nat} (hab : a * b = k.e * k.d) {x : Nat} (hx : x < k.n) :
    powMod (powMod x a k.n) b k.n = x := by
  have hpow : powMod (powMod x a k.n) b k.n ≡ x [MOD k.n] :=
    calc powMod (powMod x a k.n) b k.n ≡ powMod x a k.n ^ b [MOD k.n] := powMod_modEq _ _ _
      _ ≡ (x ^ a) ^ b [MOD k.n] := (powMod_modEq _ _ _).pow b
      _ = x ^ (k.e * k.d) := by rw [← Nat.pow_mul, hab]
      _ ≡ x [MOD k.n] := hk.pow_exponents x
  have hlt : powMod (powMod x a k.n) b k.n < k.n := by
    rw [powMod_eq]
    exact Nat.mod_lt _ hk.n_pos
  exact hpow.eq_of_lt_of_lt hlt hx

end PrivateKey.IsValid

/-! ## Numbers in a fixed number of bytes -/

/-- The bytes of a number are put before the rest. -/
theorem fixedBytesTo_eq (rest : Bytes) (length n : Nat) :
    fixedBytesTo rest length n = fixedBytes length n ++ rest := by
  induction length generalizing rest n with
  | zero => rfl
  | succ length ih =>
    rw [fixedBytes, fixedBytesTo, fixedBytesTo, ih, ih [_], List.append_assoc,
      List.singleton_append]

/-- The last byte of a number stands behind those of its quotient. -/
theorem fixedBytes_succ (length n : Nat) :
    fixedBytes (length + 1) n = fixedBytes length (n / 256) ++ [n.toUInt8] := by
  rw [fixedBytes, fixedBytesTo, fixedBytesTo_eq]

theorem length_fixedBytes (length n : Nat) : (fixedBytes length n).length = length := by
  induction length generalizing n with
  | zero => rfl
  | succ length ih => rw [fixedBytes_succ, List.length_append, ih, List.length_singleton]

/-- A number that fits is read back from its bytes. -/
theorem number_fixedBytes {length n : Nat} (h : n < 256 ^ length) :
    Der.number (fixedBytes length n) = n := by
  induction length generalizing n with
  | zero =>
    rw [Nat.pow_zero] at h
    rw [fixedBytes, fixedBytesTo, Der.number_nil]
    omega
  | succ length ih =>
    rw [Nat.pow_succ] at h
    have hdiv : n / 256 < 256 ^ length := Nat.div_lt_of_lt_mul (by rwa [Nat.mul_comm])
    rw [fixedBytes_succ, Der.number_append, ih hdiv, Der.number_cons, Der.number_nil,
      Der.toNat_toUInt8]
    simp only [List.length_singleton, List.length_nil, Nat.pow_zero, Nat.pow_one]
    omega

/-- Bytes are those of their number. -/
theorem fixedBytes_number (bytes : Bytes) : fixedBytes bytes.length (Der.number bytes) = bytes :=
  Der.number_injective (length_fixedBytes _ _) (number_fixedBytes (Der.number_lt bytes))

/-! ## The size of a modulus -/

/-- The modulus fits into the bytes of the key. -/
theorem PublicKey.n_lt (k : PublicKey) : k.n < 256 ^ k.bytes := by
  have hlog : k.n < 2 ^ (k.n.log2 + 1) := Nat.lt_log2_self
  have hle : k.n < 2 ^ k.bits := by
    rw [bits, bitLength]
    split
    · rename_i hzero
      rw [hzero]
      exact Nat.one_pos
    · exact hlog
  calc k.n < 2 ^ k.bits := hle
    _ ≤ 2 ^ (8 * k.bytes) := Nat.pow_le_pow_right (by decide) (by rw [bytes]; omega)
    _ = 256 ^ k.bytes := by rw [Nat.pow_mul]

/-- The modulus fills the bytes of the key. -/
theorem PublicKey.pow_le_n {k : PublicKey} (h : k.n ≠ 0) : 256 ^ (k.bytes - 1) ≤ k.n := by
  have hbits : k.bits = k.n.log2 + 1 := by rw [bits, bitLength, if_neg h]
  calc 256 ^ (k.bytes - 1) = 2 ^ (8 * (k.bytes - 1)) := by rw [Nat.pow_mul]
    _ ≤ 2 ^ k.n.log2 := Nat.pow_le_pow_right (by decide) (by rw [bytes]; omega)
    _ ≤ k.n := Nat.log2_self_le h

/-! ## The block of a message -/

/-- The name of the hash function, as it is written. -/
def hashName : Bytes :=
  [0x30, 0x0D, 0x06, 0x09, 0x60, 0x86, 0x48, 0x01, 0x65, 0x03, 0x04, 0x02, 0x01, 0x05, 0x00]

/-- What stands in front of the digest of a message. -/
def digestFront : Bytes :=
  0x30 :: 0x31 :: (hashName ++ [0x04, 0x20])

/-- The digest stands behind a front that is the same for all messages. -/
theorem digestInfo_eq (message : Bytes) : digestInfo message = digestFront ++ digest message := by
  have hlength := length_digest message
  rw [digestInfo]
  generalize digest message = bytes at hlength
  have hname : (Der.Value.sequence [.oid sha256Oid, .null]).write = hashName := by
    decide
  have hdigest : (Der.Value.octetString bytes).write = 0x04 :: 0x20 :: bytes := by
    rw [Der.Value.write, Der.tagged, hlength]
    rfl
  have hcontent : Der.writeAll [.sequence [.oid sha256Oid, .null], .octetString bytes] =
      hashName ++ 0x04 :: 0x20 :: bytes := by
    rw [Der.writeAll, Der.writeAll, Der.writeAll, hname, hdigest, List.append_nil]
  have hsize : (hashName ++ 0x04 :: 0x20 :: bytes).length = 49 := by
    simp [hashName, hlength]
  rw [Der.Value.write, hcontent, Der.tagged, hsize]
  rfl

/-- What stands in front of the digest in a block of the given length. -/
def blockFront (length : Nat) : Bytes :=
  0x00 :: 0x01 :: (List.replicate (length - 54) 0xFF ++ 0x00 :: digestFront)

/-- The least length of a block. -/
def leastBlock : Nat := 62

/-- The padded block is a front of its own length, and the digest. -/
theorem messageBlock?_eq (length : Nat) (message : Bytes) :
    messageBlock? length message =
      if length < leastBlock then none else some (blockFront length ++ digest message) := by
  have hlength : (digestInfo message).length = 51 := by
    rw [digestInfo_eq, List.length_append, length_digest]
    rfl
  simp only [messageBlock?, hlength, Nat.sub_sub, Nat.reduceAdd]
  simp only [digestInfo_eq, leastBlock, blockFront, List.cons_append, List.append_assoc]

/-- The front leaves room for the digest. -/
theorem length_blockFront {length : Nat} (h : leastBlock ≤ length) :
    (blockFront length).length + 32 = length := by
  rw [leastBlock] at h
  simp only [blockFront, List.length_cons, List.length_append, List.length_replicate, digestFront,
    hashName, List.length_nil]
  omega

/-- The block of a message is as long as the modulus and stands for a number below it. -/
theorem number_block_lt {k : PublicKey} (hn : k.n ≠ 0) (h : leastBlock ≤ k.bytes)
    (message : Bytes) : Der.number (blockFront k.bytes ++ digest message) < k.n := by
  have hlength := length_blockFront h
  rw [leastBlock] at h
  obtain ⟨rest, hrest⟩ : ∃ rest, blockFront k.bytes ++ digest message = 0x00 :: 0x01 :: rest :=
    ⟨_, rfl⟩
  have hrestLength : rest.length = k.bytes - 2 := by
    have := congrArg List.length hrest
    rw [List.length_append, length_digest, hlength, List.length_cons, List.length_cons] at this
    omega
  have hnumber : Der.number (0x00 :: 0x01 :: rest) = 256 ^ rest.length + Der.number rest := by
    rw [Der.number_cons, Der.number_cons]
    simp
  have hlt := Der.number_lt rest
  -- the first byte is zero and the second is one, far below the highest byte of the modulus
  calc Der.number (blockFront k.bytes ++ digest message) = 256 ^ rest.length + Der.number rest := by
        rw [hrest, hnumber]
    _ < 256 ^ rest.length * 256 := by omega
    _ = 256 ^ (k.bytes - 1) := by
        rw [← Nat.pow_succ, hrestLength]
        congr 1
        omega
    _ ≤ k.n := PublicKey.pow_le_n hn

/-! ## Verifying -/

/-- A long enough key signs every message. -/
theorem sign?_eq {k : PrivateKey} (h : leastBlock ≤ k.publicKey.bytes) (message : Bytes) :
    sign? k message = some (fixedBytes k.publicKey.bytes
      (powMod (Der.number (blockFront k.publicKey.bytes ++ digest message)) k.d k.n)) := by
  rw [sign?, messageBlock?_eq, if_neg (Nat.not_lt.2 h)]
  rfl

/-- A signature depends on the digest of the message only. -/
theorem sign?_congr {k : PrivateKey} {message message' : Bytes}
    (h : digest message = digest message') : sign? k message = sign? k message' := by
  rw [sign?, sign?, messageBlock?_eq, messageBlock?_eq, h]

section Verify

variable {k : PrivateKey} (hk : k.IsValid) (hlength : leastBlock ≤ k.publicKey.bytes)

include hk

theorem powMod_lt (base exponent : Nat) : powMod base exponent k.n < k.n := by
  rw [powMod_eq]
  exact Nat.mod_lt _ hk.n_pos

include hlength

/-- Undoing the power of a signature gives the block of the message, for this signature only. -/
theorem block_iff {message signature : Bytes} :
    (signature.length = k.publicKey.bytes ∧ Der.number signature < k.n ∧
      blockFront k.publicKey.bytes ++ digest message =
        fixedBytes k.publicKey.bytes (powMod (Der.number signature) k.e k.n)) ↔
    fixedBytes k.publicKey.bytes
      (powMod (Der.number (blockFront k.publicKey.bytes ++ digest message)) k.d k.n) =
        signature := by
  have hfit : ∀ x, x < k.n → x < 256 ^ k.publicKey.bytes :=
    fun x hx => Nat.lt_trans hx k.publicKey.n_lt
  constructor
  · rintro ⟨hsize, hlt, hblock⟩
    rw [hblock, number_fixedBytes (hfit _ (powMod_lt hk _ _)),
      hk.powMod_powMod rfl hlt, ← hsize, fixedBytes_number]
  · rintro rfl
    have hblockLt : Der.number (blockFront k.publicKey.bytes ++ digest message) < k.n :=
      number_block_lt hk.n_pos.ne' hlength message
    have hblockLength :
        (blockFront k.publicKey.bytes ++ digest message).length = k.publicKey.bytes := by
      rw [List.length_append, length_digest, length_blockFront hlength]
    rw [number_fixedBytes (hfit _ (powMod_lt hk _ _)),
      hk.powMod_powMod (Nat.mul_comm _ _) hblockLt]
    have hblock := fixedBytes_number (blockFront k.publicKey.bytes ++ digest message)
    rw [hblockLength] at hblock
    exact ⟨length_fixedBytes _ _, powMod_lt hk _ _, hblock.symm⟩

/-- A signature is verified if and only if it is the one that signing gives, as far as the key may
be used. -/
theorem verify_iff {message signature : Bytes} :
    verify k.publicKey message signature ↔
      k.publicKey.isAffordable ∧ sign? k message = some signature := by
  rw [sign?_eq hlength, verify, messageBlock?_eq, if_neg (Nat.not_lt.2 hlength)]
  simp only [Bool.and_eq_true, beq_iff_eq, decide_eq_true_eq, Option.some.injEq, and_assoc]
  exact and_congr_right fun _ => block_iff hk hlength

/-- Messages with a signature in common have the same digest. -/
theorem digest_eq_of_sign? {message message' signature : Bytes}
    (h : sign? k message = some signature) (h' : sign? k message' = some signature) :
    digest message = digest message' := by
  rw [sign?_eq hlength, Option.some.injEq] at h h'
  obtain ⟨-, -, hblock⟩ := (block_iff hk hlength).2 h
  obtain ⟨-, -, hblock'⟩ := (block_iff hk hlength).2 h'
  exact List.append_cancel_left (hblock.trans hblock'.symm)

end Verify

end SealedPage.Rsa
