import SealedPage.Key.Material
import SealedPage.Rsa.Signature
import SealedPage.Codec.Hex

/-!
# Signing documents

The signature over the bytes of a document, `signBytes` and `signSource`, and the digest that names
a document in logs and headers, `sourceHash`.
-/

namespace SealedPage.Seal

/-- Why a document is not signed. -/
inductive SigningError where
  /-- What was handed in as a document is no text. -/
  | notText (kind : String)
  | emptySource
  | emptyKey
  | unreadableKey
  /-- The key is of the kind given. -/
  | foreignKey (kind : String)
  /-- The modulus has no room for a digest. -/
  | keyTooSmall
  deriving DecidableEq, Repr

/-- The wording of a refusal. -/
def SigningError.message : SigningError → String
  | notText kind => "Document Source must be text, got " ++ kind
  | emptySource => "Refusing to sign an empty Document Source"
  | emptyKey => "Private key is empty"
  | unreadableKey => "Private key could not be loaded"
  | foreignKey kind => "Expected an RSA private key, got " ++ kind
  | keyTooSmall =>
    "Digest or salt length too long for key size. Use a larger key or shorter salt length if " ++
      "you are specifying a PSS salt"

/-- A text that is not empty. -/
def requireSource : Datum → Except SigningError String
  | .json (.str s) => if s.isEmpty then .error .emptySource else .ok s
  | d => .error (.notText d.kind)

/-- Whether a byte is white space of ASCII. -/
def isSpaceByte (b : UInt8) : Bool :=
  b == 0x20 || (0x09 ≤ b && b ≤ 0x0D)

/-- The RSA key in an armoured text, which must not be encrypted. -/
def loadKey (text : Bytes) : Except SigningError Rsa.PrivateKey :=
  if text.all isSpaceByte then .error .emptyKey
  else
    match Key.privateKeyOfPem? text none with
    | none => .error .unreadableKey
    | some (.rsa k) => .ok k
    | some k => .error (.foreignKey k.kind)

/-- The signature over bytes. -/
def signBytes (k : Rsa.PrivateKey) (data : Bytes) : Except SigningError Bytes :=
  match Rsa.sign? k data with
  | some signature => .ok signature
  | none => .error .keyTooSmall

/-- The signature over a document, in base64. -/
def signSource (k : Rsa.PrivateKey) (source : Datum) : Except SigningError String := do
  let s ← requireSource source
  let signature ← signBytes k (Text.Utf8.ofString s)
  return String.ofList (Codec.Base64.encode signature)

/-- The signature over a document with the key in an armoured text. -/
def signDocument (source : Datum) (key : Bytes) : Except SigningError String := do
  let _ ← requireSource source
  let k ← loadKey key
  signSource k source

/-- The digest of bytes with the name of the hash function. -/
def sourceHash (data : Bytes) : String :=
  "SHA-256:" ++ String.ofList (Codec.Hex.encode (Hash.Sha256.digest data))

/-- What was handed in to be hashed is of the kind given and not bytes. -/
structure NotBytes where
  kind : String
  deriving DecidableEq, Repr

/-- The wording of the refusal. -/
def NotBytes.message (e : NotBytes) : String :=
  "compute_source_hash expects bytes, got " ++ e.kind

/-- The digest of a value that has to be bytes. -/
def hashDatum : Datum → Except NotBytes String
  | .bytes b => .ok (sourceHash b)
  | d => .error ⟨d.kind⟩

/-- The base64 of the bytes of a document. -/
def encodeSource (source : String) : String :=
  String.ofList (Codec.Base64.encode (Text.Utf8.ofString source))

end SealedPage.Seal
