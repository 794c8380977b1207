import Mathlib.Algebra.Order.BigOperators.Group.List
import SealedPage.Key.Material
import SealedPage.Proofs.Der.RoundTrip
import SealedPage.Proofs.Key.Pem

/-!
# Key containers there and back

A private key that is read has numbers that belong together, whatever container it is read from and
however its encryption is undone: `WasRead.of_privateKeyOfPem?`. Key material that is built holds
such a key, with the texts of this very key: `Material.ofKey_of_build`. A public key that is written
is read again, `publicKeyOfDer?_write`.
-/

namespace SealedPage.Key

open Der (Value lengthLimit integerContent)

/-! ## Keys that are read -/

/-- A key is the content of some bytes, and its numbers belong together. -/
def WasRead (k : Rsa.PrivateKey) : Prop :=
  k.isConsistent ∧ ∃ bytes, Der.read? bytes = some (bareRsaPrivateKey k)

/-- A private key in the form of RSA's own was read. -/
theorem WasRead.of_bare {bytes : Bytes} {v : Value} {k : Rsa.PrivateKey}
    (hread : Der.read? bytes = some v) (h : bareRsaPrivateKey? v = some k) : WasRead k := by
  unfold bareRsaPrivateKey? at h
  split at h
  · dsimp only at h
    split at h
    · rename_i hconsistent
      obtain rfl := Option.some.inj h
      exact ⟨hconsistent, bytes, hread⟩
    · simp at h
  · simp at h

/-- A private key in the form that names its algorithm was read. -/
theorem WasRead.of_named {v : Value} {k : Rsa.PrivateKey}
    (h : namedPrivateKey? v = some (.rsa k)) : WasRead k := by
  unfold namedPrivateKey? at h
  split at h
  · split at h
    · simp at h
    · split at h
      · rename_i bytes _ _ _
        obtain ⟨k', hk', hkk'⟩ := Option.map_eq_some_iff.1 h
        obtain rfl := PrivateKey.rsa.inj hkk'
        obtain ⟨v, hread, hv⟩ := Option.bind_eq_some_iff.1 hk'
        exact .of_bare hread hv
      -- the other names are those of other kinds of keys
      · repeat' split at h
        all_goals simp at h
  · simp at h

/-- Whatever form a block of a file has, its RSA key was read. -/
theorem WasRead.of_privateKeyOfBlock? {block : Pem.Block} {passphrase : Option Bytes}
    {how : Decryption} {k : Rsa.PrivateKey}
    (h : privateKeyOfBlock? block passphrase how = some (.rsa k)) : WasRead k := by
  unfold privateKeyOfBlock? at h
  split at h
  · simp at h
  · split at h
    · simp at h
    · rename_i hread
      split at h
      · split at h
        · simp at h
        · obtain ⟨v, -, hv⟩ := Option.bind_eq_some_iff.1 h
          exact .of_named hv
      · split at h
        · simp at h
        · split at h
          · exact .of_named h
          · split at h
            · obtain ⟨k', hk', hkk'⟩ := Option.map_eq_some_iff.1 h
              obtain rfl := PrivateKey.rsa.inj hkk'
              exact .of_bare hread hk'
            · repeat' split at h
              all_goals simp at h

/-- Whatever container a private key is read from, and however its encryption is undone, its
numbers belong together. -/
theorem WasRead.of_privateKeyOfPem? {text : Bytes} {passphrase : Option Bytes}
    {how : Decryption} {k : Rsa.PrivateKey}
    (h : privateKeyOfPem? text passphrase how = some (.rsa k)) : WasRead k := by
  obtain ⟨block, -, hblock⟩ := Option.bind_eq_some_iff.1 h
  exact .of_privateKeyOfBlock? hblock

/-- The integers of a key that was read are not too long to be written. -/
theorem WasRead.length_integerContent {k : Rsa.PrivateKey} (h : WasRead k) {n : Nat}
    (hn : n ∈ [k.n, k.e, k.d, k.p, k.q, k.dp, k.dq, k.qInv]) :
    (integerContent n).length < lengthLimit := by
  obtain ⟨-, bytes, hread⟩ := h
  refine Der.length_integerContent_of_read? hread ?_
  simp only [List.mem_cons, List.not_mem_nil, or_false] at hn
  rcases hn with rfl | rfl | rfl | rfl | rfl | rfl | rfl | rfl <;> simp

theorem isUsable_of_bare {v : Value} {p : Rsa.PublicKey} (h : bareRsaPublicKey? v = some p) :
    p.isUsable := by
  unfold bareRsaPublicKey? at h
  split at h
  · dsimp only at h
    split at h
    · rename_i husable
      obtain rfl := Option.some.inj h
      exact husable
    · simp at h
  · simp at h

theorem isUsable_of_named {v : Value} {p : Rsa.PublicKey}
    (h : namedPublicKey? v = some (.rsa p)) : p.isUsable := by
  unfold namedPublicKey? at h
  split at h
  · split at h
    · obtain ⟨p', hp', hpp'⟩ := Option.map_eq_some_iff.1 h
      obtain rfl := PublicKey.rsa.inj hpp'
      obtain ⟨v, -, hv⟩ := Option.bind_eq_some_iff.1 hp'
      exact isUsable_of_bare hv
    · repeat' split at h
      all_goals simp at h
  · simp at h

/-- A public key that is read from its encoding is usable. -/
theorem isUsable_of_publicKeyOfDer? {bytes : Bytes} {p : Rsa.PublicKey}
    (h : publicKeyOfDer? bytes = some (.rsa p)) : p.isUsable := by
  unfold publicKeyOfDer? at h
  split at h
  · simp at h
  · split at h
    · rename_i hnamed
      rw [Option.some.inj h] at hnamed
      exact isUsable_of_named hnamed
    · obtain ⟨p', hp', hpp'⟩ := Option.map_eq_some_iff.1 h
      obtain rfl := PublicKey.rsa.inj hpp'
      exact isUsable_of_bare hp'

/-- Whatever container a public key is read from, its exponent fits its modulus. -/
theorem isUsable_of_publicKeyOfPem? {text : Bytes} {p : Rsa.PublicKey}
    (h : publicKeyOfPem? text = some (.rsa p)) : p.isUsable := by
  unfold publicKeyOfPem? at h
  split at h
  · simp at h
  · split at h
    · obtain ⟨v, -, hv⟩ := Option.bind_eq_some_iff.1 h
      exact isUsable_of_named hv
    · split at h
      · obtain ⟨p', hp', hpp'⟩ := Option.map_eq_some_iff.1 h
        obtain rfl := PublicKey.rsa.inj hpp'
        obtain ⟨key, hkey, hp'⟩ := Option.bind_eq_some_iff.1 hp'
        cases key with
        | rsa p =>
          obtain rfl := Option.some.inj hp'
          exact isUsable_of_publicKeyOfDer? hkey
        | ellipticCurve => simp [PublicKey.rsa?] at hp'
        | ed25519 => simp [PublicKey.rsa?] at hp'
      · simp at h

/-! ## Keys that are written -/

theorem isRegular_namedRsaPublicKey (p : Rsa.PublicKey) : (namedRsaPublicKey p).isRegular := by
  rfl

theorem isRegular_namedRsaPrivateKey (k : Rsa.PrivateKey) : (namedRsaPrivateKey k).isRegular := by
  rfl

theorem isRegular_bareRsaPublicKey (p : Rsa.PublicKey) : (bareRsaPublicKey p).isRegular := by
  rfl

theorem isRegular_bareRsaPrivateKey (k : Rsa.PrivateKey) : (bareRsaPrivateKey k).isRegular := by
  rfl

/-- The name of the algorithm, as it is written. -/
def algorithmBytes : Bytes :=
  (Value.sequence [.oid rsaOid, .null]).write

theorem content_namedRsaPublicKey (p : Rsa.PublicKey) :
    (namedRsaPublicKey p).content =
      algorithmBytes ++ Der.tagged 0x03 (0 :: (bareRsaPublicKey p).write) := by
  simp [namedRsaPublicKey, Value.content, Der.writeAll, Value.write, algorithmBytes]

theorem content_namedRsaPrivateKey (k : Rsa.PrivateKey) :
    (namedRsaPrivateKey k).content =
      Der.tagged 0x02 (integerContent 0) ++
        (algorithmBytes ++ Der.tagged 0x04 (bareRsaPrivateKey k).write) := by
  simp [namedRsaPrivateKey, Value.content, Der.writeAll, Value.write, algorithmBytes]

/-- The content of a named container holds the bare one with its own length. -/
theorem length_content_bare_public (p : Rsa.PublicKey) :
    (bareRsaPublicKey p).content.length + 2 ≤ (namedRsaPublicKey p).content.length := by
  have := (bareRsaPublicKey p).length_content_le
  rw [content_namedRsaPublicKey, List.length_append, Der.length_tagged, List.length_cons]
  omega

/-- The form that names its algorithm is the longer one. -/
theorem length_content_bare_private (k : Rsa.PrivateKey) :
    (bareRsaPrivateKey k).content.length + 2 ≤ (namedRsaPrivateKey k).content.length := by
  have := (bareRsaPrivateKey k).length_content_le
  rw [content_namedRsaPrivateKey, List.length_append, List.length_append, Der.length_tagged,
    Der.length_tagged]
  omega

/-- A public key is read back from its own form if it is usable. -/
theorem bareRsaPublicKey?_bareRsaPublicKey (p : Rsa.PublicKey) :
    bareRsaPublicKey? (bareRsaPublicKey p) = if p.isUsable then some p else none :=
  rfl

/-- A private key is read back from its own form if its numbers fit together. -/
theorem bareRsaPrivateKey?_bareRsaPrivateKey (k : Rsa.PrivateKey) :
    bareRsaPrivateKey? (bareRsaPrivateKey k) = if k.isConsistent then some k else none :=
  rfl

/-- The name of the algorithm around a public key changes nothing. -/
theorem namedPublicKey?_namedRsaPublicKey {p : Rsa.PublicKey}
    (hsize : (namedRsaPublicKey p).content.length < lengthLimit) :
    namedPublicKey? (namedRsaPublicKey p) = if p.isUsable then some (.rsa p) else none := by
  have hbare := length_content_bare_public p
  have hrsa : isRsa rsaOid [.null] := by decide
  have hread := Der.read?_write (isRegular_bareRsaPublicKey p) (by omega)
  simp only [namedRsaPublicKey, namedPublicKey?]
  rw [if_pos hrsa, hread, Option.bind_some, bareRsaPublicKey?_bareRsaPublicKey]
  split <;> rfl

/-- A usable public key is read back from its encoding. -/
theorem publicKeyOfDer?_write {p : Rsa.PublicKey} (hp : p.isUsable)
    (hsize : (namedRsaPublicKey p).content.length < lengthLimit) :
    publicKeyOfDer? (namedRsaPublicKey p).write = some (.rsa p) := by
  rw [publicKeyOfDer?, Der.read?_write (isRegular_namedRsaPublicKey p) hsize]
  dsimp only
  rw [namedPublicKey?_namedRsaPublicKey hsize, if_pos hp]

/-- The name of the algorithm around a private key changes nothing. -/
theorem namedPrivateKey?_namedRsaPrivateKey {k : Rsa.PrivateKey}
    (hsize : (namedRsaPrivateKey k).content.length < lengthLimit) :
    namedPrivateKey? (namedRsaPrivateKey k) =
      if k.isConsistent then some (.rsa k) else none := by
  have hbare := length_content_bare_private k
  have hrsa : isRsa rsaOid [.null] := by decide
  have hattributes : areAttributes [] := by decide
  have hread := Der.read?_write (isRegular_bareRsaPrivateKey k) (by omega)
  simp only [namedRsaPrivateKey, namedPrivateKey?]
  rw [hattributes, if_neg (by decide), if_pos hrsa, hread, Option.bind_some,
    bareRsaPrivateKey?_bareRsaPrivateKey]
  split <;> rfl

/-! ## Keys in armour -/

/-- The key in a block that stands in a text is the key in the text. -/
theorem privateKeyOfPem?_of_standsIn {b : Pem.Block} {text : String} (h : b.StandsIn text)
    (hlabel : b.label ∈ privateLabels) (hheaders : b.headers = []) (secret : Option Bytes)
    (how : Decryption) :
    privateKeyOfPem? (Text.Utf8.ofString text) secret how = privateKeyOfBlock? b secret how := by
  have hlabels : ∀ label ∈ privateLabels, Pem.isLabel label := by decide
  rw [privateKeyOfPem?, Pem.find?_of_standsIn h (hlabels _ hlabel) hheaders hlabel,
    Option.bind_some]

/-- A plain container is read as it is. -/
theorem privateKeyOfBlock?_plain (bytes : Bytes) (how : Decryption) :
    privateKeyOfBlock? { label := "PRIVATE KEY", bytes } none how =
      (Der.read? bytes).bind namedPrivateKey? := by
  have hopen : openBlock? { label := "PRIVATE KEY", bytes } none how = some (bytes, false) := rfl
  have hlabel : "PRIVATE KEY" ≠ "ENCRYPTED PRIVATE KEY" := by decide
  rw [privateKeyOfBlock?, hopen]
  cases hread : Der.read? bytes with
  | none => simp [hread]
  | some v => simp [hread, hlabel]

/-- Reading the text of a private key comes down to reading the container in it. -/
theorem privateKeyOfPem?_privatePem (k : Rsa.PrivateKey) (how : Decryption) :
    privateKeyOfPem? (Text.Utf8.ofString (privatePem k)) none how =
      (Der.read? (namedRsaPrivateKey k).write).bind namedPrivateKey? := by
  have hmem : "PRIVATE KEY" ∈ privateLabels := by decide
  rw [privatePem, privateKeyOfPem?_of_standsIn (Pem.standsIn_write _) hmem rfl,
    privateKeyOfBlock?_plain]

/-- A private key that is written is read again. -/
theorem privateKeyOfPem?_write {k : Rsa.PrivateKey} (hk : k.isConsistent)
    (hsize : (namedRsaPrivateKey k).content.length < lengthLimit) (how : Decryption) :
    privateKeyOfPem? (Text.Utf8.ofString (privatePem k)) none how = some (.rsa k) := by
  rw [privateKeyOfPem?_privatePem, Der.read?_write (isRegular_namedRsaPrivateKey k) hsize,
    Option.bind_some, namedPrivateKey?_namedRsaPrivateKey hsize, if_pos hk]

/-! ## Sizes -/

/-- A tag and a length take at most seven bytes before a content that is not huge. -/
theorem length_tagged_le (tag : UInt8) {content : Bytes} (h : content.length < 256 ^ 5) :
    (Der.tagged tag content).length ≤ 7 + content.length := by
  have := Der.length_lengthBytes_le h
  rw [Der.length_tagged]
  omega

theorem le_length_tagged (tag : UInt8) (content : Bytes) :
    2 + content.length ≤ (Der.tagged tag content).length := by
  have := Der.length_lengthBytes_pos content.length
  rw [Der.length_tagged]
  omega

theorem one_le_length_integerContent (n : Nat) : 1 ≤ (integerContent n).length := by
  unfold integerContent
  split
  · decide
  · split <;> simp

theorem content_bareRsaPublicKey (p : Rsa.PublicKey) :
    (bareRsaPublicKey p).content =
      Der.tagged 0x02 (integerContent p.n) ++ Der.tagged 0x02 (integerContent p.e) := by
  simp [bareRsaPublicKey, Value.content, Der.writeAll, Value.write]

theorem content_bareRsaPrivateKey (k : Rsa.PrivateKey) :
    (bareRsaPrivateKey k).content =
      [0, k.n, k.e, k.d, k.p, k.q, k.dp, k.dq, k.qInv].flatMap fun n =>
        Der.tagged 0x02 (integerContent n) := by
  simp [bareRsaPrivateKey, Value.content, Der.writeAll, Value.write]

/-- What is written of a key that was read is too short for its length to overflow. -/
theorem WasRead.length_content_lt {k : Rsa.PrivateKey} (h : WasRead k) :
    (namedRsaPrivateKey k).content.length < 256 ^ 5 := by
  have hlimit : lengthLimit = 2 ^ 32 := rfl
  have hinteger : ∀ n ∈ [0, k.n, k.e, k.d, k.p, k.q, k.dp, k.dq, k.qInv],
      (Der.tagged 0x02 (integerContent n)).length ≤ 7 + lengthLimit := by
    intro n hn
    have hlength : (integerContent n).length < lengthLimit := by
      rcases List.mem_cons.1 hn with rfl | hn
      · decide
      · exact h.length_integerContent hn
    have := length_tagged_le 0x02 (by omega : (integerContent n).length < 256 ^ 5)
    omega
  have hcontent : (bareRsaPrivateKey k).content.length ≤ 9 * (7 + lengthLimit) := by
    rw [content_bareRsaPrivateKey, List.length_flatMap]
    exact List.sum_le_card_nsmul _ _ (by simpa using hinteger)
  have hbare : (bareRsaPrivateKey k).write.length ≤ 7 + (bareRsaPrivateKey k).content.length := by
    rw [Value.write_eq]
    exact length_tagged_le _ (by omega)
  have hstring := length_tagged_le 0x04
    (by omega : (bareRsaPrivateKey k).write.length < 256 ^ 5)
  have hfront : (Der.tagged 0x02 (integerContent 0)).length + algorithmBytes.length = 18 := by
    decide
  rw [content_namedRsaPrivateKey, List.length_append, List.length_append]
  omega

/-- The public half of a key does not take more room than the key. -/
theorem length_content_publicKey_le {k : Rsa.PrivateKey}
    (hsize : (namedRsaPrivateKey k).content.length < lengthLimit) :
    (namedRsaPublicKey k.publicKey).content.length ≤ (namedRsaPrivateKey k).content.length := by
  have hlimit : lengthLimit = 2 ^ 32 := rfl
  have hinteger : ∀ n, 3 ≤ (Der.tagged 0x02 (integerContent n)).length := by
    intro n
    have := one_le_length_integerContent n
    have := le_length_tagged 0x02 (integerContent n)
    omega
  -- the seven numbers that the public half does not have outweigh its longer lengths
  have hcontent : (bareRsaPublicKey k.publicKey).content.length + 21 ≤
      (bareRsaPrivateKey k).content.length := by
    have hzero := hinteger 0
    have hd := hinteger k.d
    have hp := hinteger k.p
    have hq := hinteger k.q
    have hdp := hinteger k.dp
    have hdq := hinteger k.dq
    have hqInv := hinteger k.qInv
    simp only [content_bareRsaPublicKey, content_bareRsaPrivateKey, Rsa.PrivateKey.publicKey,
      List.flatMap_cons, List.flatMap_nil, List.length_append, List.length_nil]
    omega
  have hprivate := length_content_bare_private k
  have hpublicBare : (bareRsaPublicKey k.publicKey).write.length ≤
      7 + (bareRsaPublicKey k.publicKey).content.length := by
    rw [Value.write_eq]
    exact length_tagged_le _ (by omega)
  have hbitsSize : (0 :: (bareRsaPublicKey k.publicKey).write).length < 256 ^ 5 := by
    rw [List.length_cons]
    omega
  have hbits := length_tagged_le 0x03 hbitsSize
  have hprivateBare := (bareRsaPrivateKey k).length_content_le
  have hstring := le_length_tagged 0x04 (bareRsaPrivateKey k).write
  rw [List.length_cons] at hbits
  rw [content_namedRsaPublicKey, content_namedRsaPrivateKey, List.length_append,
    List.length_append, List.length_append]
  omega

/-! ## Key material -/

/-- The keys of a producer are made from one key that was read, which is large enough, and whose
container is not too long to be read again. -/
structure Material.OfKey (m : Material) : Prop where
  wasRead : WasRead m.privateKey
  isUsable : m.privateKey.publicKey.isUsable
  leastBits_le : leastBits ≤ m.privateKey.bits
  length_lt : (namedRsaPrivateKey m.privateKey).content.length < lengthLimit
  privatePem_eq : m.privatePem = Key.privatePem m.privateKey
  publicPem_eq : m.publicPem =
    String.ofList (Text.trim (Key.publicPem m.privateKey.publicKey).toList)

/-- A signing key is read from its text, with no passphrase if none is given, and is large
enough. -/
theorem of_signingKey {text : String} {passphrase : Option String} {how : Decryption}
    {k : Rsa.PrivateKey} (h : signingKey text passphrase how = .ok k) :
    (∃ secret, privateKeyOfPem? (Text.Utf8.ofString text) secret how = some (.rsa k) ∧
      (passphrase = none → secret = none)) ∧ leastBits ≤ k.bits := by
  unfold signingKey at h
  dsimp only at h
  split at h
  · simp at h
  · rename_i k' hk'
    split at h
    · simp at h
    · rename_i hbits
      obtain rfl := Except.ok.inj h
      refine ⟨⟨_, hk', ?_⟩, Nat.le_of_not_lt hbits⟩
      rintro rfl
      rfl
  · simp at h

/-- The key that checks signatures is usable. -/
theorem of_checkingKey {text : String} {p : Rsa.PublicKey} (h : checkingKey text = .ok p) :
    p.isUsable := by
  unfold checkingKey at h
  split at h
  · simp at h
  · rename_i p' hp'
    obtain rfl := Except.ok.inj h
    exact isUsable_of_publicKeyOfPem? hp'
  · simp at h

/-- The text that is written for a key that was read is read as this key, if it is read at all. -/
theorem WasRead.of_signingKey_privatePem {k k' : Rsa.PrivateKey} (hk : WasRead k)
    {how : Decryption} (h : signingKey (privatePem k) none how = .ok k') :
    k' = k ∧ (namedRsaPrivateKey k).content.length < lengthLimit := by
  obtain ⟨⟨secret, hread, hsecret⟩, -⟩ := of_signingKey h
  rw [hsecret rfl] at hread
  have hsize : (namedRsaPrivateKey k).content.length < lengthLimit := by
    by_contra hsize
    have hlt : (namedRsaPrivateKey k).content.length < 256 ^ 127 :=
      Nat.lt_trans hk.length_content_lt (by decide)
    rw [privateKeyOfPem?_privatePem, Value.write_eq,
      Der.read?_tagged_eq_none (Nat.le_of_not_lt hsize) hlt] at hread
    simp at hread
  rw [privateKeyOfPem?_write hk.1 hsize] at hread
  exact ⟨by simpa using hread.symm, hsize⟩

/-- Material from two texts keeps both, and signs with the key that the first one holds. -/
theorem Material.of_ofTexts {privatePem publicPem : String} {how : Decryption} {m : Material}
    (h : Material.ofTexts privatePem publicPem how = .ok m) :
    signingKey privatePem none how = .ok m.privateKey ∧ m.privatePem = privatePem ∧
      m.publicPem = publicPem := by
  unfold Material.ofTexts at h
  cases hk : signingKey privatePem none how with
  | error e =>
    rw [hk] at h
    split at h <;> simp [bind, Except.bind] at h
  | ok k =>
    rw [hk] at h
    split at h
    · simp [bind, Except.bind] at h
    · obtain rfl := Except.ok.inj h
      exact ⟨rfl, rfl, rfl⟩

/-- What is built is built from the private key of one text, whose public half the other one
holds. -/
theorem Material.of_build {privateText publicText : String} {passphrase : Option String}
    {how : Decryption} {m : Material}
    (h : Material.build privateText publicText passphrase how = .ok m) :
    ∃ k, signingKey privateText passphrase how = .ok k ∧
      checkingKey publicText = .ok k.publicKey ∧
      Material.ofTexts (Key.privatePem k)
        (String.ofList (Text.trim (Key.publicPem k.publicKey).toList)) how = .ok m := by
  unfold Material.build at h
  cases hk : signingKey privateText passphrase how with
  | error e => simp [hk, bind, Except.bind] at h
  | ok k =>
    cases hp : checkingKey publicText with
    | error e => simp [hk, hp, bind, Except.bind] at h
    | ok p =>
      rw [hk, hp] at h
      by_cases hmatch : k.publicKey = p
      · subst hmatch
        refine ⟨k, rfl, rfl, ?_⟩
        simpa [bind, Except.bind] using h
      · simp [bind, Except.bind, hmatch] at h

/-- What is built is made from one key, which is the key that was handed in. -/
theorem Material.keys_of_build {privateText publicText : String} {passphrase : Option String}
    {how : Decryption} {m : Material}
    (h : Material.build privateText publicText passphrase how = .ok m) :
    signingKey privateText passphrase how = .ok m.privateKey ∧
      checkingKey publicText = .ok m.privateKey.publicKey ∧ m.OfKey := by
  obtain ⟨k, hk, hp, hm⟩ := of_build h
  obtain ⟨hm, hprivate, hpublic⟩ := of_ofTexts hm
  obtain ⟨⟨secret, hread, -⟩, hbits⟩ := of_signingKey hk
  have hwas : WasRead k := .of_privateKeyOfPem? hread
  obtain ⟨hkey, hsize⟩ := hwas.of_signingKey_privatePem hm
  rw [← hkey] at hwas hbits hsize hp hk hprivate hpublic
  exact ⟨hk, hp, hwas, of_checkingKey hp, hbits, hsize, hprivate, hpublic⟩

/-- Material that is built belongs to one usable key. -/
theorem Material.ofKey_of_build {privateText publicText : String} {passphrase : Option String}
    {how : Decryption} {m : Material}
    (h : Material.build privateText publicText passphrase how = .ok m) : m.OfKey :=
  (keys_of_build h).2.2

end SealedPage.Key
