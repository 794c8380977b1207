import SealedPage.Key.Curve
import SealedPage.Key.Encryption
import SealedPage.Key.Pem
import SealedPage.Rsa.Key
import SealedPage.Der.Value

/-!
# Key containers

The forms in which keys are handed in: private keys plain or encrypted, `privateKeyOfPem?`, public
keys with or without the name of their algorithm, `publicKeyOfPem?`. Only RSA keys are used; keys of
two other kinds, on the curve P-256 and for Ed25519, are recognised so that they can be named, and
keys of further kinds are not read. A private key may be found behind other blocks of a text, a
public key has to be in the first one.
-/

namespace SealedPage.Key

open Der (Value)

/-! ## Object identifiers -/

/-- RSA. -/
def rsaOid : Bytes := [0x2A, 0x86, 0x48, 0x86, 0xF7, 0x0D, 0x01, 0x01, 0x01]

/-- RSA for signatures with a random salt. -/
def rsaPssOid : Bytes := [0x2A, 0x86, 0x48, 0x86, 0xF7, 0x0D, 0x01, 0x01, 0x0A]

/-- Keys on elliptic curves. -/
def ellipticCurveOid : Bytes := [0x2A, 0x86, 0x48, 0xCE, 0x3D, 0x02, 0x01]

/-- The curve P-256. -/
def p256Oid : Bytes := [0x2A, 0x86, 0x48, 0xCE, 0x3D, 0x03, 0x01, 0x07]

/-- Ed25519. -/
def ed25519Oid : Bytes := [0x2B, 0x65, 0x70]

/-! ## Public keys -/

/-- A public key of any known kind. -/
inductive PublicKey where
  | rsa (k : Rsa.PublicKey)
  | ellipticCurve
  | ed25519
  deriving DecidableEq, Repr

/-- The name of a kind of public key. -/
def PublicKey.kind : PublicKey → String
  | rsa _ => "RSAPublicKey"
  | ellipticCurve => "ECPublicKey"
  | ed25519 => "Ed25519PublicKey"

/-- The numbers of a bare RSA public key, if the exponent fits the modulus. -/
def bareRsaPublicKey? : Value → Option Rsa.PublicKey
  | .sequence [.integer n, .integer e] =>
    let k : Rsa.PublicKey := ⟨n, e⟩
    if k.isUsable then some k else none
  | _ => none

/-- Whether the parameters of the signature scheme with a random salt are left out, or stand in the
order of their tags. -/
def isSaltedScheme : List Value → Bool
  | [] => true
  | [.sequence items] =>
    let numbers := items.map fun
      | .context number [_] => some number
      | _ => none
    numbers.all Option.isSome && numbers.Pairwise fun a b => a.getD 0 < b.getD 0
  | _ => false

/-- Whether a name and the parameters behind it are those of RSA, in general or for one signature
scheme alone. -/
def isRsa (algorithm : Bytes) (parameters : List Value) : Bool :=
  algorithm == rsaOid && isAbsent parameters || algorithm == rsaPssOid && isSaltedScheme parameters

/-- The public key of a container that names its algorithm. -/
def namedPublicKey? : Value → Option PublicKey
  | .sequence [.sequence (.oid algorithm :: parameters), .bitString _ bytes] =>
    if isRsa algorithm parameters then ((Der.read? bytes).bind bareRsaPublicKey?).map .rsa
    else if algorithm = ellipticCurveOid then
      match parameters with
      | [.oid curve] =>
        if curve = p256Oid && Curve.isPublic bytes then some .ellipticCurve else none
      | _ => none
    else if algorithm = ed25519Oid && parameters.isEmpty && bytes.length = 32 then some .ed25519
    else none
  | _ => none

/-- The public key that bytes encode: with its algorithm, or else as a bare RSA key. -/
def publicKeyOfDer? (bytes : Bytes) : Option PublicKey :=
  match Der.read? bytes with
  | none => none
  | some v =>
    match namedPublicKey? v with
    | some k => some k
    | none => (bareRsaPublicKey? v).map .rsa

/-- The RSA key of a container. -/
def PublicKey.rsa? : PublicKey → Option Rsa.PublicKey
  | rsa k => some k
  | _ => none

/-- The public key in the first block of an armoured text, whose label says which container to
expect; a block for a bare RSA key may hold one that names its algorithm. -/
def publicKeyOfPem? (text : Bytes) : Option PublicKey :=
  match Pem.read? text with
  | none => none
  | some block =>
    if block.label = "PUBLIC KEY" then (Der.read? block.bytes).bind namedPublicKey?
    else if block.label = "RSA PUBLIC KEY" then
      ((publicKeyOfDer? block.bytes).bind PublicKey.rsa?).map .rsa
    else none

/-- A bare RSA public key. -/
def bareRsaPublicKey (k : Rsa.PublicKey) : Value :=
  .sequence [.integer k.n, .integer k.e]

/-- The container of an RSA public key that names its algorithm. -/
def namedRsaPublicKey (k : Rsa.PublicKey) : Value :=
  .sequence [.sequence [.oid rsaOid, .null], .bitString 0 (bareRsaPublicKey k).write]

/-- An RSA public key as armoured text. -/
def publicPem (k : Rsa.PublicKey) : String :=
  Pem.Block.write { label := "PUBLIC KEY", bytes := (namedRsaPublicKey k).write }

/-! ## Private keys -/

/-- A private key of any known kind. -/
inductive PrivateKey where
  | rsa (k : Rsa.PrivateKey)
  | ellipticCurve
  | ed25519
  deriving DecidableEq, Repr

/-- The name of a kind of private key. -/
def PrivateKey.kind : PrivateKey → String
  | rsa _ => "RSAPrivateKey"
  | ellipticCurve => "ECPrivateKey"
  | ed25519 => "Ed25519PrivateKey"

/-- The numbers of a bare RSA private key, if they belong together. -/
def bareRsaPrivateKey? : Value → Option Rsa.PrivateKey
  | .sequence [.integer 0, .integer n, .integer e, .integer d, .integer p, .integer q,
      .integer dp, .integer dq, .integer qInv] =>
    let k : Rsa.PrivateKey := ⟨n, e, d, p, q, dp, dq, qInv⟩
    if k.isConsistent then some k else none
  | _ => none

/-- Whether a value is a private key on the curve P-256: with its point or without, and with the
name of the curve or, if the name stands elsewhere, without. -/
def isP256Private (named : Bool) : Value → Bool
  | .sequence (.integer 1 :: .octetString secret :: rest) =>
    let (names, rest) := match rest with
      | .context 0 [.oid curve] :: rest => (curve == p256Oid, rest)
      | rest => (named, rest)
    names && match rest with
      | [] => Curve.isPrivate (Der.number secret) none
      | [.context 1 [.bitString _ point]] => Curve.isPrivate (Der.number secret) (some point)
      | _ => false
  | _ => false

/-- Whether a value is an attribute: a name with a set of values. -/
def isAttribute : Value → Bool
  | .sequence [.oid _, .other 0x31 content] => Der.isSetContent content
  | _ => false

/-- Whether values are what may stand behind a private key: a set of attributes, or nothing. -/
def areAttributes : List Value → Bool
  | [] => true
  | [.context 0 items] => items.all isAttribute && Der.areSorted (items.map Value.write)
  | _ => false

/-- The private key of a container that names its algorithm. -/
def namedPrivateKey? : Value → Option PrivateKey
  | .sequence (.integer 0 :: .sequence (.oid algorithm :: parameters) :: .octetString bytes ::
      attributes) =>
    if !areAttributes attributes then none
    else if isRsa algorithm parameters then
      ((Der.read? bytes).bind bareRsaPrivateKey?).map .rsa
    else if algorithm = ellipticCurveOid then
      match parameters, Der.read? bytes with
      | [.oid curve], some v =>
        if curve = p256Oid && isP256Private true v then some .ellipticCurve else none
      | _, _ => none
    else if algorithm = ed25519Oid && parameters.isEmpty then
      match Der.read? bytes with
      | some (.octetString secret) => if secret.length = 32 then some .ed25519 else none
      | _ => none
    else none
  | _ => none

/-- The labels of blocks with private keys. -/
def privateLabels : List String :=
  ["PRIVATE KEY", "ENCRYPTED PRIVATE KEY", "RSA PRIVATE KEY", "EC PRIVATE KEY", "DSA PRIVATE KEY"]

/-- The private key in a block. A passphrase is demanded by an encrypted key and refused by any
other one. -/
def privateKeyOfBlock? (block : Pem.Block) (passphrase : Option Bytes)
    (how : Decryption := .standard) : Option PrivateKey :=
  match openBlock? block passphrase how with
  | none => none
  | some (bytes, used) =>
    match Der.read? bytes with
    | none => none
    | some v =>
      if block.label = "ENCRYPTED PRIVATE KEY" then
        match passphrase with
        | none => none
        | some secret => ((how.container? secret v).bind Der.read?).bind namedPrivateKey?
      else if passphrase.isSome && !used then none
      else if block.label = "PRIVATE KEY" then namedPrivateKey? v
      else if block.label = "RSA PRIVATE KEY" then (bareRsaPrivateKey? v).map .rsa
      else if block.label = "EC PRIVATE KEY" then
        if isP256Private false v then some .ellipticCurve else none
      else none

/-- The private key in the first block of an armoured text that may hold one. -/
def privateKeyOfPem? (text : Bytes) (passphrase : Option Bytes)
    (how : Decryption := .standard) : Option PrivateKey :=
  (Pem.find? privateLabels text).bind fun block => privateKeyOfBlock? block passphrase how

/-- A bare RSA private key. -/
def bareRsaPrivateKey (k : Rsa.PrivateKey) : Value :=
  .sequence [.integer 0, .integer k.n, .integer k.e, .integer k.d, .integer k.p, .integer k.q,
    .integer k.dp, .integer k.dq, .integer k.qInv]

/-- The container of an RSA private key that names its algorithm. -/
def namedRsaPrivateKey (k : Rsa.PrivateKey) : Value :=
  .sequence
    [.integer 0, .sequence [.oid rsaOid, .null], .octetString (bareRsaPrivateKey k).write]

/-- An RSA private key as armoured text, not encrypted. -/
def privatePem (k : Rsa.PrivateKey) : String :=
  Pem.Block.write { label := "PRIVATE KEY", bytes := (namedRsaPrivateKey k).write }

end SealedPage.Key
