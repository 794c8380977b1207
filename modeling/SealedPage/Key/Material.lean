import SealedPage.Fields.Problem
import SealedPage.Key.Container
import SealedPage.Text.Utf8

/-!
# Key material

The pair of keys that a producer signs with, `Material`. It is made from texts in any accepted form,
`Material.build`, and kept in one form: the private key plain, the public key with the name of its
algorithm. What is refused is a `MaterialError`; of a text that is no key it says this much and not
the reason.
-/

namespace SealedPage.Key

/-- The least size of a signing key, in bits. -/
def leastBits : Nat := 2048

/-- Why key material is refused. -/
inductive MaterialError where
  | unreadablePrivate
  | foreignPrivate
  | tooSmall
  | unreadablePublic
  | foreignPublic
  | mismatch
  /-- The text of the public key is empty. -/
  | emptyPublic
  deriving DecidableEq, Repr

/-- The wording of a refusal. -/
def MaterialError.message : MaterialError → String
  | unreadablePrivate => "Private key could not be loaded"
  | foreignPrivate => "Private key must be an RSA key"
  | tooSmall => "Signing key size below " ++ Nat.repr leastBits ++ " bits is not allowed"
  | unreadablePublic => "Public key could not be loaded"
  | foreignPublic => "Public key must be an RSA key"
  | mismatch => "Public key does not match the private key"
  | emptyPublic => Fields.report [⟨["public_pem"], .tooShort⟩]

/-- The keys of a producer: the private key, its text, and the text of the public key that is put
into every shell. -/
structure Material where
  privateKey : Rsa.PrivateKey
  privatePem : String
  publicPem : String
  deriving DecidableEq, Repr

/-- The signing key in an armoured text. An empty passphrase is none. -/
def signingKey (text : String) (passphrase : Option String) (how : Decryption := .standard) :
    Except MaterialError Rsa.PrivateKey :=
  let secret := (passphrase.filter fun p => !p.isEmpty).map Text.Utf8.ofString
  match privateKeyOfPem? (Text.Utf8.ofString text) secret how with
  | none => .error .unreadablePrivate
  | some (.rsa k) => if k.bits < leastBits then .error .tooSmall else .ok k
  | some _ => .error .foreignPrivate

/-- The key in an armoured text that signatures are checked with. -/
def checkingKey (text : String) : Except MaterialError Rsa.PublicKey :=
  match publicKeyOfPem? (Text.Utf8.ofString text) with
  | none => .error .unreadablePublic
  | some (.rsa k) => .ok k
  | some _ => .error .foreignPublic

/-- Key material from a plain private key and the text of a public key, both kept as they are. -/
def Material.ofTexts (privatePem publicPem : String) (how : Decryption := .standard) :
    Except MaterialError Material := do
  if publicPem.isEmpty then throw .emptyPublic
  let k ← signingKey privatePem none how
  return ⟨k, privatePem, publicPem⟩

/-- Key material from a pair of texts in any accepted form. -/
def Material.build (privateText publicText : String) (passphrase : Option String)
    (how : Decryption := .standard) : Except MaterialError Material := do
  let k ← signingKey privateText passphrase how
  let p ← checkingKey publicText
  if k.publicKey ≠ p then throw .mismatch
  Material.ofTexts (Key.privatePem k) (String.ofList (Text.trim (Key.publicPem p).toList))
    how

end SealedPage.Key
