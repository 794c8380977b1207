import SealedPage.Proofs.Seal.Signing

/-!
# One form for every key

Key material keeps a key in one form, whatever form it was handed in: `normalises_of_build`. The key
is the same, a consumer reads its public half from the text that is kept, and what is built from the
kept texts or from any other texts of the key is the same key material. All this holds however the
encryption of private keys is undone.
-/

namespace SealedPage.Seal

open Key (Decryption Material PrivateForm PublicForm signingKey checkingKey)
open Rsa (usualKey)

/-- What key material has to do with the texts that it was built from by a loader that undoes
encryption in the given ways. -/
structure Normalises (how : Decryption) (privateText publicText : String)
    (passphrase : Option String) (m : Material) : Prop where
  /-- The private key is the one that was handed in. -/
  signingKey_eq : signingKey privateText passphrase how = .ok m.privateKey
  /-- The public key that was handed in is its public half. -/
  checkingKey_eq : checkingKey publicText = .ok m.privateKey.publicKey
  /-- If the text is one of the forms of a key, then it is this key. -/
  numbers : ∀ k, (Key.namedRsaPrivateKey k).content.length < Der.lengthLimit →
    PrivateForm how k privateText passphrase → m.privateKey = k
  leastBits_le : Key.leastBits ≤ m.privateKey.bits
  /-- A consumer imports the public half of the key. -/
  imported : ∃ v, ({} : Render.Verifier).importKey m.publicPem = (.ok m.privateKey.publicKey, v)
  /-- The texts that are kept are in their one form already. -/
  stable : Material.build m.privatePem m.publicPem none how = .ok m
  /-- Other texts with the same key give the same key material. -/
  same : ∀ privateText' publicText' passphrase',
    signingKey privateText' passphrase' how = .ok m.privateKey →
      checkingKey publicText' = .ok m.privateKey.publicKey →
        Material.build privateText' publicText' passphrase' how = .ok m
  /-- So do all the forms in which the key can be handed in. -/
  forms : ∀ privateText' publicText' passphrase',
    PrivateForm how m.privateKey privateText' passphrase' →
      PublicForm m.privateKey.publicKey publicText' →
        Material.build privateText' publicText' passphrase' how = .ok m

section

variable {how : Decryption} {privateText publicText : String} {passphrase : Option String}
  {m : Material}

/-- The texts of key material are forms of its key. -/
theorem privateForm_privatePem (hm : m.OfKey) :
    PrivateForm how m.privateKey m.privatePem none := by
  rw [hm.privatePem_eq]
  exact .named (by simp) (Key.Pem.standsIn_write _)

/-- The public text of the material is a form of its key. -/
theorem publicForm_publicPem (hm : m.OfKey) :
    PublicForm m.privateKey.publicKey m.publicPem := by
  refine .named (Key.Pem.standsIn_of_append_newline ?_)
  have hwrite := Render.toList_write (Key.namedRsaPublicKey m.privateKey.publicKey).write
  rw [hm.publicPem_eq]
  refine String.toList_injective ?_
  rw [String.toList_append, String.toList_ofList, Key.publicPem, Render.trim_write, hwrite]
  simp

/-- Whatever texts of a key are handed in, and however encryption is undone, the key material that
is built holds the key in one form. -/
theorem normalises_of_build (h : Material.build privateText publicText passphrase how = .ok m) :
    Normalises how privateText publicText passphrase m := by
  obtain ⟨hprivate, hpublic, hm⟩ := Material.keys_of_build h
  have hpem := shellKey_ne_empty m.privateKey
  have hforms : ∀ privateText' publicText' passphrase',
      PrivateForm how m.privateKey privateText' passphrase' →
        PublicForm m.privateKey.publicKey publicText' →
          Material.build privateText' publicText' passphrase' how = .ok m := by
    intro privateText' publicText' passphrase' hprivate' hpublic'
    rw [hm.eq]
    exact Material.build_of_forms hm.wasRead.1 hm.leastBits_le hm.length_lt hpem hm.isUsable
      hprivate' hpublic'
  exact {
    signingKey_eq := hprivate
    checkingKey_eq := hpublic
    numbers := fun k hsize hform => ((hform.signingKey_eq_ok_iff hsize).1 hprivate).1.symm
    leastBits_le := hm.leastBits_le
    imported := ⟨_, importKey_of_ofKey hm⟩
    stable := hforms _ _ _ (privateForm_privatePem hm) (publicForm_publicPem hm)
    same := by
      intro privateText' publicText' passphrase' hprivate' hpublic'
      rw [hm.eq]
      exact Material.build_of_keys hm.wasRead.1 hm.leastBits_le hm.length_lt hpem hprivate'
        hpublic'
    forms := hforms }

end

/-- The text of a block as another program may write it: with a note in front of it, in lines that
end with carriage returns, and without the end of the last line. -/
def foreignText (b : Key.Pem.Block) : String :=
  "Key of 2026-01-15\r\n" ++ "-----BEGIN " ++ b.label ++ "-----" ++ "\r\n" ++
    String.ofList (Key.Pem.withReturns (Key.Pem.armoured b.bytes)) ++ "-----END " ++ b.label ++
    "-----" ++ ""

theorem standsIn_foreignText (b : Key.Pem.Block) : b.StandsIn (foreignText b) := by
  refine .intro (by decide) (by decide) rfl ?_ (by decide)
  rw [String.toList_ofList]
  exact (Key.Pem.isArmour_armoured b.bytes).withReturns

/-- The two foreign texts of a key without the name of its algorithm. -/
def foreignPrivateText (k : Rsa.PrivateKey) : String :=
  foreignText { label := "RSA PRIVATE KEY", bytes := (Key.bareRsaPrivateKey k).write }

def foreignPublicText (p : Rsa.PublicKey) : String :=
  foreignText { label := "RSA PUBLIC KEY", bytes := (Key.bareRsaPublicKey p).write }

/-- Foreign texts of a usual key are brought into the form that is kept. -/
theorem normalises_usualKey :
    Material.build (foreignPrivateText usualKey) (foreignPublicText usualKey.publicKey) none =
        .ok (.ofKey usualKey) ∧
      Normalises .standard (foreignPrivateText usualKey) (foreignPublicText usualKey.publicKey)
        none (.ofKey usualKey) := by
  have hprivate : PrivateForm .standard usualKey (foreignPrivateText usualKey) none :=
    .bare (by simp) (standsIn_foreignText _)
  have hpublic : PublicForm usualKey.publicKey (foreignPublicText usualKey.publicKey) :=
    .bare (standsIn_foreignText _)
  have hbuild := Material.build_of_forms Rsa.isConsistent_usualKey (by decide +kernel)
    length_usualKey (shellKey_ne_empty usualKey) (by decide +kernel) hprivate hpublic
  exact ⟨hbuild, normalises_of_build hbuild⟩

end SealedPage.Seal
