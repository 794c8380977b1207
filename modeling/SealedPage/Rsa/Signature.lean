import SealedPage.Hash.Sha256
import SealedPage.Der.Value
import SealedPage.Rsa.Key

/-!
# RSA signatures

The signature scheme RSASSA-PKCS1-v1_5 of RFC 8017 with SHA-256, `sign?` and `verify`. A signature
is a power of the block that the digest of the message is laid out in, `messageBlock?`; verifying
undoes the power and compares blocks.
-/

namespace SealedPage.Rsa

/-- The object identifier of SHA-256. -/
def sha256Oid : Bytes :=
  [0x60, 0x86, 0x48, 0x01, 0x65, 0x03, 0x04, 0x02, 0x01]

/-- The digest of a message with the name of the hash function. -/
def digestInfo (message : Bytes) : Bytes :=
  (Der.Value.sequence
    [.sequence [.oid sha256Oid, .null], .octetString (Hash.Sha256.digest message)]).write

/-- The block of a message, if the given number of bytes is enough for it. -/
def messageBlock? (length : Nat) (message : Bytes) : Option Bytes :=
  let info := digestInfo message
  if length < info.length + 11 then none
  else some (0x00 :: 0x01 :: (List.replicate (length - info.length - 3) 0xFF ++ 0x00 :: info))

/-- A number in the given number of bytes, the highest first, in front of `rest`. -/
def fixedBytesTo (rest : Bytes) : (length : Nat) → Nat → Bytes
  | 0, _ => rest
  | length + 1, n => fixedBytesTo (n.toUInt8 :: rest) length (n / 256)

/-- A number in the given number of bytes, the highest first. -/
def fixedBytes (length n : Nat) : Bytes :=
  fixedBytesTo [] length n

/-- The signature of a message, as long as the modulus, if the modulus is long enough. -/
def sign? (k : PrivateKey) (message : Bytes) : Option Bytes :=
  (messageBlock? k.publicKey.bytes message).map fun block =>
    fixedBytes k.publicKey.bytes (powMod (Der.number block) k.d k.n)

/-- Whether a signature belongs to a message: the key may be used, the signature is as long as the
modulus, its value is below the modulus, and undoing the power gives the block of the message. -/
def verify (k : PublicKey) (message signature : Bytes) : Bool :=
  k.isAffordable && signature.length == k.bytes && Der.number signature < k.n &&
    messageBlock? k.bytes message ==
      some (fixedBytes k.bytes (powMod (Der.number signature) k.e k.n))

end SealedPage.Rsa
