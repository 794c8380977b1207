import SealedPage.Proofs.Key.Forms
import SealedPage.Proofs.Render.Transport
import SealedPage.Proofs.Rsa.Generation
import SealedPage.Seal.Signing

/-!
# What the producer signs is what the consumer accepts

A consumer that holds the public half of a valid key accepts one signature of a payload, the one
that the producer makes, and this signature for no payload of another digest: `check_iff_signBytes`.
The exception are keys whose numbers are too large for checking, of which no signature is accepted,
`wideKey_refused`.
-/

namespace SealedPage.Seal

open Hash.Sha256 (digest)
open Render (Verifier decodeBase64 Decodes)

/-! ## Keys that are loaded -/

/-- A private key that is written is loaded again. -/
theorem loadKey_privatePem {k : Rsa.PrivateKey} (hk : k.isConsistent)
    (hsize : (Key.namedRsaPrivateKey k).content.length < Der.lengthLimit) :
    loadKey (Text.Utf8.ofString (Key.privatePem k)) = .ok k := by
  have hspace : (Text.Utf8.ofString (Key.privatePem k)).all isSpaceByte = false := by
    have hfront : (Text.Utf8.ofString "-----BEGIN ").all isSpaceByte = false := by decide
    unfold Key.privatePem Key.Pem.Block.write
    simp only [Key.Pem.ofString_append, List.all_append, hfront, Bool.false_and]
  rw [loadKey, hspace, if_neg Bool.false_ne_true, Key.privateKeyOfPem?_write hk hsize]

/-! ## Signing and checking -/

section

variable {k : Rsa.PrivateKey}

/-- A key that may sign has room for a digest. -/
theorem leastBlock_le (hbits : Key.leastBits ≤ k.bits) : Rsa.leastBlock ≤ k.publicKey.bytes := by
  have hbits : 2048 ≤ k.publicKey.bits := hbits
  rw [Rsa.leastBlock, Rsa.PublicKey.bytes]
  omega

/-- Bytes are signed where the key can sign them. -/
theorem signBytes_eq_ok_iff {bytes signature : Bytes} :
    signBytes k bytes = .ok signature ↔ Rsa.sign? k bytes = some signature := by
  unfold signBytes
  split <;> simp_all

/-- A key that is not too short signs all bytes. -/
theorem exists_signBytes (hbits : Key.leastBits ≤ k.bits) (bytes : Bytes) :
    ∃ signature, signBytes k bytes = .ok signature :=
  ⟨_, signBytes_eq_ok_iff.2 (Rsa.sign?_eq (leastBlock_le hbits) bytes)⟩

/-- A signature is as long as the key. -/
theorem length_of_signBytes {bytes signature : Bytes} (h : signBytes k bytes = .ok signature) :
    signature.length = k.publicKey.bytes := by
  obtain ⟨block, -, rfl⟩ := Option.map_eq_some_iff.1 (signBytes_eq_ok_iff.1 h)
  exact Rsa.length_fixedBytes _ _

/-- A signature in base64 is read as the signature. -/
theorem decodes_signature (hbits : Key.leastBits ≤ k.bits) {bytes signature : Bytes}
    (h : signBytes k bytes = .ok signature) :
    Decodes (String.ofList (Codec.Base64.encode signature)) signature := by
  have hlength := length_of_signBytes h
  have hleast := leastBlock_le hbits
  rw [Rsa.leastBlock] at hleast
  exact Render.decodes_encode (List.ne_nil_of_length_pos (by omega))

/-- With a key that may not be used every signature is a wrong one. -/
theorem checkWith_of_not_isAffordable {p : Rsa.PublicKey} (hp : p.isAffordable = false)
    {bytes signature : Bytes} (hbytes : bytes ≠ []) {text : String} (h : Decodes text signature) :
    Verifier.checkWith p bytes text = .rejected .mismatch :=
  Render.checkWith_of_mismatch hbytes h.all_isBlank h (by rw [Rsa.verify, hp]; rfl)

/-- A verifier with a key checks with that key. -/
theorem check_eq {v : Verifier} {p : Rsa.PublicKey} (hv : v.key? = some p) (bytes : Bytes)
    (text : String) : v.check bytes text = .ok (Verifier.checkWith p bytes text) := by
  rw [Verifier.check, hv]

variable (hk : k.IsValid) (hbits : Key.leastBits ≤ k.bits)

include hk hbits

/-- What is accepted is what signing gives, in base64. -/
theorem checkWith_iff_signBytes {bytes : Bytes} {text : String} :
    Verifier.checkWith k.publicKey bytes text = .accepted ↔
      bytes ≠ [] ∧ k.publicKey.isAffordable ∧
        ∃ signature, Decodes text signature ∧ signBytes k bytes = .ok signature := by
  rw [Render.checkWith_eq_accepted_iff]
  simp only [Rsa.verify_iff hk (leastBlock_le hbits), signBytes_eq_ok_iff]
  exact and_congr_right fun _ => ⟨fun ⟨s, hs, ha, h⟩ => ⟨ha, s, hs, h⟩,
    fun ⟨ha, s, hs, h⟩ => ⟨s, hs, ha, h⟩⟩

/-- A text that is accepted for one payload is accepted for the payloads of the same digest, and for
no other one. -/
theorem checkWith_of_accepted {bytes : Bytes} {text : String}
    (h : Verifier.checkWith k.publicKey bytes text = .accepted) (bytes' : Bytes) :
    Verifier.checkWith k.publicKey bytes' text =
      if bytes' = [] then .rejected .emptyPayload
      else if digest bytes' = digest bytes then .accepted
      else .rejected .mismatch := by
  obtain ⟨-, haffordable, signature, hsignature, hsigned⟩ := (checkWith_iff_signBytes hk hbits).1 h
  by_cases hempty : bytes' = []
  · rw [if_pos hempty, hempty]
    rfl
  · rw [if_neg hempty]
    rw [signBytes_eq_ok_iff] at hsigned
    split
    · rename_i hdigest
      refine Render.checkWith_of_verify hempty hsignature.all_isBlank hsignature ?_
      rw [Rsa.verify_iff hk (leastBlock_le hbits), Rsa.sign?_congr hdigest]
      exact ⟨haffordable, hsigned⟩
    · rename_i hdigest
      refine Render.checkWith_of_mismatch hempty hsignature.all_isBlank hsignature ?_
      rw [Bool.eq_false_iff, ne_eq, Rsa.verify_iff hk (leastBlock_le hbits)]
      exact fun ⟨_, hsigned'⟩ =>
        hdigest (Rsa.digest_eq_of_sign? hk (leastBlock_le hbits) hsigned' hsigned)

end

/-- A session with the public half of a valid key accepts exactly the signature that is made with
the key, as far as a key of these numbers may be used; and no signature for two payloads of
different digests. -/
theorem check_iff_signBytes {k : Rsa.PrivateKey} (hk : k.IsValid)
    (hbits : Key.leastBits ≤ k.bits) {v : Verifier} (hv : v.key? = some k.publicKey) :
    (∀ bytes, bytes ≠ [] → ∃ signature, signBytes k bytes = .ok signature ∧
      ∀ text, v.check bytes text = .ok .accepted ↔
        k.publicKey.isAffordable ∧ decodeBase64 .signature text = .ok signature) ∧
    ∀ bytes text, v.check bytes text = .ok .accepted →
      ∀ bytes', v.check bytes' text = .ok
        (if bytes' = [] then .rejected .emptyPayload
        else if digest bytes' = digest bytes then .accepted
        else .rejected .mismatch) := by
  constructor
  · intro bytes hbytes
    obtain ⟨signature, hsigned⟩ := exists_signBytes hbits bytes
    refine ⟨signature, hsigned, fun text => ?_⟩
    rw [check_eq hv, Except.ok.injEq, checkWith_iff_signBytes hk hbits, Render.decodeBase64_iff,
      hsigned]
    constructor
    · rintro ⟨-, haffordable, signature', htext, hsame⟩
      obtain rfl := Except.ok.inj hsame
      exact ⟨haffordable, htext⟩
    · rintro ⟨haffordable, htext⟩
      exact ⟨hbytes, haffordable, signature, htext, rfl⟩
  · intro bytes text haccepted bytes'
    rw [check_eq hv] at haccepted ⊢
    rw [checkWith_of_accepted hk hbits (Except.ok.inj haccepted)]

/-! ## A usual key and one that is refused -/

section

open Rsa (usualKey wideKey)

theorem length_usualKey :
    (Key.namedRsaPrivateKey usualKey).content.length < Der.lengthLimit := by
  decide +kernel

theorem isValid_usualKey : usualKey.IsValid :=
  .of_prime Rsa.isConsistent_usualKey Rsa.prime_smoothPrime_551_622 Rsa.prime_smoothPrime_102_905

theorem length_wideKey :
    (Key.namedRsaPrivateKey wideKey).content.length < Der.lengthLimit := by
  decide +kernel

theorem isValid_wideKey : wideKey.IsValid :=
  .of_prime Rsa.isConsistent_wideKey Rsa.prime_smoothPrime_551_622 Rsa.prime_smoothPrime_102_905

/-- The text of a public key as it is put into a shell. -/
def shellKey (k : Rsa.PrivateKey) : String :=
  String.ofList (Text.trim (Key.publicPem k.publicKey).toList)

/-- A session that has imported the public half of a key. -/
def sessionOf (k : Rsa.PrivateKey) : Verifier :=
  ⟨some (shellKey k, k.publicKey)⟩

/-- The key that a shell carries is imported. -/
theorem importKey_shellKey {k : Rsa.PrivateKey} (hk : k.publicKey.isUsable)
    (hsize : (Key.namedRsaPrivateKey k).content.length < Der.lengthLimit) :
    ({} : Verifier).importKey (shellKey k) = (.ok k.publicKey, sessionOf k) := by
  have hpublic := Nat.lt_of_le_of_lt (Key.length_content_publicKey_le hsize) hsize
  rw [Verifier.importKey, shellKey, Render.loadKey_publicPem hk hpublic]
  rfl

/-- The public text of the material is imported. -/
theorem importKey_of_ofKey {m : Key.Material} (hm : m.OfKey) :
    ({} : Verifier).importKey m.publicPem =
      (.ok m.privateKey.publicKey, sessionOf m.privateKey) := by
  rw [hm.publicPem_eq]
  exact importKey_shellKey hm.isUsable hm.length_lt

theorem shellKey_ne_empty (k : Rsa.PrivateKey) : shellKey k ≠ "" := by
  intro h
  have hlist := congrArg String.toList h
  obtain ⟨⟨cs, hcs⟩, -⟩ := Render.armouredKey_ends (Key.namedRsaPublicKey k.publicKey).write
  have htrim : Text.trim (Key.publicPem k.publicKey).toList = '-' :: cs :=
    (Render.trim_write _).trans hcs
  rw [shellKey, String.toList_ofList, htrim] at hlist
  simp at hlist

/-- A greeting signed with a usual key is accepted, and with another last letter it is not. -/
theorem check_usualKey :
    usualKey.IsValid ∧ Key.leastBits ≤ usualKey.bits ∧
      ({} : Verifier).importKey (shellKey usualKey) = (.ok usualKey.publicKey, sessionOf usualKey) ∧
      ∃ signature, signBytes usualKey [0x48, 0x69] = .ok signature ∧
        ∃ text, decodeBase64 .signature text = .ok signature ∧
          (sessionOf usualKey).check [0x48, 0x69] text = .ok .accepted ∧
          (sessionOf usualKey).check [0x48, 0x6F] text = .ok (.rejected .mismatch) := by
  have hbits : Key.leastBits ≤ usualKey.bits := by decide +kernel
  obtain ⟨haccepts, hdigest⟩ :=
    check_iff_signBytes isValid_usualKey hbits (v := sessionOf usualKey) rfl
  obtain ⟨signature, hsigned, hcheck⟩ := haccepts [0x48, 0x69] (List.cons_ne_nil _ _)
  have htext := Render.decodeBase64_of_decodes (decodes_signature hbits hsigned) .signature
  have haccepted := (hcheck _).2 ⟨by decide +kernel, htext⟩
  have hother := hdigest _ _ haccepted [0x48, 0x6F]
  have hne : digest [0x48, 0x6F] ≠ digest [0x48, 0x69] := by decide +kernel
  rw [if_neg (List.cons_ne_nil _ _), if_neg hne] at hother
  have husable : usualKey.publicKey.isUsable := by decide +kernel
  exact ⟨isValid_usualKey, hbits, importKey_shellKey husable length_usualKey, signature, hsigned,
    _, htext, haccepted, hother⟩

/-- The exponent of this key has 65 bits, which is too much beside its modulus: the signature that
is made with the key is refused. -/
theorem wideKey_refused :
    loadKey (Text.Utf8.ofString (Key.privatePem wideKey)) = .ok wideKey ∧ wideKey.IsValid ∧
      Key.leastBits ≤ wideKey.bits ∧
      ({} : Verifier).importKey (shellKey wideKey) = (.ok wideKey.publicKey, sessionOf wideKey) ∧
      ∃ signature text, signBytes wideKey [0x48, 0x69] = .ok signature ∧
        decodeBase64 .signature text = .ok signature ∧
        (sessionOf wideKey).check [0x48, 0x69] text = .ok (.rejected .mismatch) := by
  have hbits : Key.leastBits ≤ wideKey.bits := by decide +kernel
  have husable : wideKey.publicKey.isUsable := by decide +kernel
  have hlarge : wideKey.publicKey.isAffordable = false := by decide +kernel
  obtain ⟨signature, hsigned⟩ := exists_signBytes hbits [0x48, 0x69]
  have htext := decodes_signature hbits hsigned
  refine ⟨loadKey_privatePem Rsa.isConsistent_wideKey length_wideKey, isValid_wideKey, hbits,
    importKey_shellKey husable length_wideKey, signature, _, hsigned,
    Render.decodeBase64_of_decodes htext .signature, ?_⟩
  rw [check_eq rfl, checkWith_of_not_isAffordable hlarge (List.cons_ne_nil _ _) htext]

end

end SealedPage.Seal
