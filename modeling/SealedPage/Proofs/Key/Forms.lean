import SealedPage.Proofs.Key.Container

/-!
# The forms that keys are handed in

A key can be handed in in several containers, and a container in texts of many layouts. In each of
these forms the same key is read, `PrivateForm.privateKeyOfPem?_eq` and
`PublicForm.publicKeyOfPem?_eq`, and from all of them the same key material is built,
`Material.build_of_forms`. How the encryption of a container is undone is left open: a form is one
for a given `Decryption`.
-/

namespace SealedPage.Key

open Der (Value lengthLimit)
open Text.Utf8 (ofString)

/-! ## Private keys -/

/-- A text that a private key is handed in with, and the passphrase beside it: a plain container,
with the name of the algorithm or without, or one whose encryption is undone with the passphrase. An
empty passphrase is none. -/
inductive PrivateForm (how : Decryption) (k : Rsa.PrivateKey) : String → Option String → Prop
  | named {text : String} {passphrase : Option String} (hplain : ∀ s ∈ passphrase, s = "")
      (htext : Pem.Block.StandsIn
        { label := "PRIVATE KEY", bytes := (namedRsaPrivateKey k).write } text) :
      PrivateForm how k text passphrase
  | bare {text : String} {passphrase : Option String} (hplain : ∀ s ∈ passphrase, s = "")
      (htext : Pem.Block.StandsIn
        { label := "RSA PRIVATE KEY", bytes := (bareRsaPrivateKey k).write } text) :
      PrivateForm how k text passphrase
  | encrypted {text secret : String} {bytes : Bytes} {v : Value} (hsecret : secret ≠ "")
      (hread : Der.read? bytes = some v)
      (hdecrypt : how.container? (ofString secret) v = some (namedRsaPrivateKey k).write)
      (htext : Pem.Block.StandsIn { label := "ENCRYPTED PRIVATE KEY", bytes } text) :
      PrivateForm how k text (some secret)

/-- A bare container is read as it is. -/
theorem privateKeyOfBlock?_bare (bytes : Bytes) (how : Decryption) :
    privateKeyOfBlock? { label := "RSA PRIVATE KEY", bytes } none how =
      ((Der.read? bytes).bind bareRsaPrivateKey?).map .rsa := by
  have hopen : openBlock? { label := "RSA PRIVATE KEY", bytes } none how = some (bytes, false) :=
    rfl
  rw [privateKeyOfBlock?, hopen]
  cases hread : Der.read? bytes with
  | none => simp [hread]
  | some v => simp [hread]

/-- An encrypted container is read as what the passphrase makes of it. -/
theorem privateKeyOfBlock?_encrypted (bytes secret : Bytes) (how : Decryption) :
    privateKeyOfBlock? { label := "ENCRYPTED PRIVATE KEY", bytes } (some secret) how =
      (((Der.read? bytes).bind (how.container? secret)).bind Der.read?).bind namedPrivateKey? := by
  have hopen : openBlock? { label := "ENCRYPTED PRIVATE KEY", bytes } (some secret) how =
      some (bytes, false) := rfl
  rw [privateKeyOfBlock?, hopen]
  cases hread : Der.read? bytes with
  | none => simp [hread]
  | some v => simp [hread]

section

variable {how : Decryption} {k : Rsa.PrivateKey} {text : String} {passphrase : Option String}

/-- A passphrase that is not empty is handed on. -/
theorem filter_some {secret : String} (h : secret ≠ "") :
    ((some secret).filter fun p => !p.isEmpty).map ofString = some (ofString secret) := by
  simp [Option.filter, h]

/-- An empty passphrase counts as none. -/
theorem filter_empty (hplain : ∀ s ∈ passphrase, s = "") :
    (passphrase.filter fun p => !p.isEmpty).map ofString = none := by
  cases passphrase with
  | none => rfl
  | some s =>
    rw [hplain s rfl]
    rfl

/-- In whatever form a private key is handed in, the same is read, if its numbers belong
together. -/
theorem PrivateForm.privateKeyOfPem?_eq (h : PrivateForm how k text passphrase)
    (hsize : (namedRsaPrivateKey k).content.length < lengthLimit) :
    privateKeyOfPem? (ofString text) ((passphrase.filter fun p => !p.isEmpty).map ofString) how =
      if k.isConsistent then some (.rsa k) else none := by
  have hnamed : (Der.read? (namedRsaPrivateKey k).write).bind namedPrivateKey? =
      if k.isConsistent then some (.rsa k) else none := by
    rw [Der.read?_write (isRegular_namedRsaPrivateKey k) hsize, Option.bind_some,
      namedPrivateKey?_namedRsaPrivateKey hsize]
  cases h with
  | named hplain htext =>
    have hlabel : "PRIVATE KEY" ∈ privateLabels := by decide
    rw [filter_empty hplain, privateKeyOfPem?_of_standsIn htext hlabel rfl,
      privateKeyOfBlock?_plain, hnamed]
  | bare hplain htext =>
    have hbare := length_content_bare_private k
    have hlabel : "RSA PRIVATE KEY" ∈ privateLabels := by decide
    rw [filter_empty hplain, privateKeyOfPem?_of_standsIn htext hlabel rfl,
      privateKeyOfBlock?_bare, Der.read?_write (isRegular_bareRsaPrivateKey k) (by omega),
      Option.bind_some, bareRsaPrivateKey?_bareRsaPrivateKey]
    split <;> rfl
  | encrypted hsecret hread hdecrypt htext =>
    have hlabel : "ENCRYPTED PRIVATE KEY" ∈ privateLabels := by decide
    rw [filter_some hsecret, privateKeyOfPem?_of_standsIn htext hlabel rfl,
      privateKeyOfBlock?_encrypted, hread, Option.bind_some, hdecrypt, Option.bind_some, hnamed]

/-- In whatever form a private key is handed in, it is the key that is used, if it may be used at
all. -/
theorem PrivateForm.signingKey_eq_ok_iff (h : PrivateForm how k text passphrase)
    (hsize : (namedRsaPrivateKey k).content.length < lengthLimit) {k' : Rsa.PrivateKey} :
    signingKey text passphrase how = .ok k' ↔ k = k' ∧ k.isConsistent ∧ leastBits ≤ k.bits := by
  unfold signingKey
  dsimp only
  rw [h.privateKeyOfPem?_eq hsize]
  by_cases hk : k.isConsistent
  · by_cases hbits : k.bits < leastBits
    · simp [hk, hbits]
    · simp [hk, hbits, Nat.le_of_not_lt hbits]
  · simp [hk]

end

/-! ## Public keys -/

/-- A text that a public key is handed in with, with the name of the algorithm or without. -/
inductive PublicForm (p : Rsa.PublicKey) : String → Prop
  | named {text : String} (htext : Pem.Block.StandsIn
      { label := "PUBLIC KEY", bytes := (namedRsaPublicKey p).write } text) :
      PublicForm p text
  | bare {text : String} (htext : Pem.Block.StandsIn
      { label := "RSA PUBLIC KEY", bytes := (bareRsaPublicKey p).write } text) :
      PublicForm p text

/-- A key without the name of its algorithm is not taken for one that has it. -/
theorem publicKeyOfDer?_bare {p : Rsa.PublicKey}
    (hsize : (bareRsaPublicKey p).content.length < lengthLimit) :
    publicKeyOfDer? (bareRsaPublicKey p).write =
      if p.isUsable then some (.rsa p) else none := by
  have hnamed : namedPublicKey? (bareRsaPublicKey p) = none := rfl
  rw [publicKeyOfDer?, Der.read?_write (isRegular_bareRsaPublicKey p) hsize]
  dsimp only
  rw [hnamed]
  dsimp only
  rw [bareRsaPublicKey?_bareRsaPublicKey]
  split <;> rfl

/-- In whatever form a public key is handed in, the same is read, if its exponent fits its
modulus. -/
theorem PublicForm.publicKeyOfPem?_eq {p : Rsa.PublicKey} {text : String} (h : PublicForm p text)
    (hsize : (namedRsaPublicKey p).content.length < lengthLimit) :
    publicKeyOfPem? (ofString text) = if p.isUsable then some (.rsa p) else none := by
  cases h with
  | named htext =>
    have hlabel : Pem.isLabel "PUBLIC KEY" := by decide
    rw [publicKeyOfPem?, Pem.read?_of_standsIn htext hlabel rfl]
    dsimp only
    rw [if_pos rfl, Der.read?_write (isRegular_namedRsaPublicKey p) hsize, Option.bind_some,
      namedPublicKey?_namedRsaPublicKey hsize]
  | bare htext =>
    have hbare := length_content_bare_public p
    have hlabel : Pem.isLabel "RSA PUBLIC KEY" := by decide
    rw [publicKeyOfPem?, Pem.read?_of_standsIn htext hlabel rfl]
    dsimp only
    rw [if_neg (by decide), if_pos rfl, publicKeyOfDer?_bare (by omega)]
    split <;> rfl

/-- In whatever form a public key is handed in, it is the key that is used. -/
theorem PublicForm.checkingKey_eq {p : Rsa.PublicKey} {text : String} (h : PublicForm p text)
    (hp : p.isUsable) (hsize : (namedRsaPublicKey p).content.length < lengthLimit) :
    checkingKey text = .ok p := by
  unfold checkingKey
  rw [h.publicKeyOfPem?_eq hsize, if_pos hp]

/-! ## Key material -/

/-- The keys of a producer with a given private key. -/
def Material.ofKey (k : Rsa.PrivateKey) : Material :=
  ⟨k, Key.privatePem k, String.ofList (Text.trim (Key.publicPem k.publicKey).toList)⟩

/-- Material that belongs to a key is made of that key alone. -/
theorem Material.OfKey.eq {m : Material} (h : m.OfKey) : m = .ofKey m.privateKey := by
  cases m
  rw [Material.ofKey, ← h.privatePem_eq, ← h.publicPem_eq]

section

variable {how : Decryption} {k : Rsa.PrivateKey} (hk : k.isConsistent) (hbits : leastBits ≤ k.bits)
  (hsize : (namedRsaPrivateKey k).content.length < lengthLimit)
  (hpem : String.ofList (Text.trim (Key.publicPem k.publicKey).toList) ≠ "")

include hk hbits hsize hpem

/-- Key material depends on nothing but the key that is read. -/
theorem Material.build_of_keys {privateText publicText : String} {passphrase : Option String}
    (hprivate : signingKey privateText passphrase how = .ok k)
    (hpublic : checkingKey publicText = .ok k.publicKey) :
    Material.build privateText publicText passphrase how = .ok (.ofKey k) := by
  have hform : PrivateForm how k (Key.privatePem k) none :=
    .named (by simp) (Pem.standsIn_write _)
  have hsigning := (hform.signingKey_eq_ok_iff hsize).2 ⟨rfl, hk, hbits⟩
  simp [Material.build, Material.ofTexts, Material.ofKey, hprivate, hpublic, hsigning, hpem, bind,
    Except.bind, pure, Except.pure]

/-- In whatever forms the two halves of a key are handed in, the same key material is built. -/
theorem Material.build_of_forms (hp : k.publicKey.isUsable) {privateText publicText : String}
    {passphrase : Option String} (hprivate : PrivateForm how k privateText passphrase)
    (hpublic : PublicForm k.publicKey publicText) :
    Material.build privateText publicText passphrase how = .ok (.ofKey k) :=
  build_of_keys hk hbits hsize hpem ((hprivate.signingKey_eq_ok_iff hsize).2 ⟨rfl, hk, hbits⟩)
    (hpublic.checkingKey_eq hp (Nat.lt_of_le_of_lt (length_content_publicKey_le hsize) hsize))

end

/-- From the two texts of a key its keys are built. -/
theorem Material.build_texts {k : Rsa.PrivateKey} (hk : k.isConsistent)
    (hp : k.publicKey.isUsable) (hbits : leastBits ≤ k.bits)
    (hsize : (namedRsaPrivateKey k).content.length < lengthLimit)
    (hpem : String.ofList (Text.trim (Key.publicPem k.publicKey).toList) ≠ "") :
    Material.build (Key.privatePem k) (Key.publicPem k.publicKey) none = .ok (.ofKey k) :=
  build_of_forms hk hbits hsize hpem hp (.named (by simp) (Pem.standsIn_write _))
    (.named (Pem.standsIn_write _))

end SealedPage.Key
