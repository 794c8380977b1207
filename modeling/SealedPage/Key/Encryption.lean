import SealedPage.Cipher.Aes
import SealedPage.Cipher.Des
import SealedPage.Cipher.Rc2
import SealedPage.Codec.Hex
import SealedPage.Der.Value
import SealedPage.Key.Derivation
import SealedPage.Key.Pem

/-!
# Encrypted keys

The two ways in which a private key is encrypted with a passphrase: as a container that names how,
`decrypt?`, or as a block with a header that does, `decryptBlock?`. The key of the cipher is derived
from the passphrase.

A container is encrypted by one of these schemes:

* PBES2, with a key derived by PBKDF2 over HMAC with SHA-1, SHA-224, SHA-256, SHA-384 or SHA-512, or
  by scrypt, and with AES, triple DES or RC2 in cipher block chaining mode;
* a scheme of PKCS #12 with SHA-1, and triple DES or RC2 with keys of 40 bits;
* the scheme of PKCS #5 with MD5 and DES.

A block is encrypted with AES or triple DES in cipher block chaining mode. What else a loader may
know, such as RC4 and triple DES with two keys, is left out. How encryption is undone is therefore
not fixed: a loader takes it as a `Decryption`, of which `Decryption.standard` is the one above.
-/

namespace SealedPage.Key

open Cipher (BlockCipher)
open Der (Value)
open Hash (Algorithm)

/-! ## Object identifiers -/

/-- Encryption with a derived key. -/
def pbes2Oid : Bytes := [0x2A, 0x86, 0x48, 0x86, 0xF7, 0x0D, 0x01, 0x05, 0x0D]

/-- PBKDF2. -/
def pbkdf2Oid : Bytes := [0x2A, 0x86, 0x48, 0x86, 0xF7, 0x0D, 0x01, 0x05, 0x0C]

/-- The key derivation scrypt. -/
def scryptOid : Bytes := [0x2B, 0x06, 0x01, 0x04, 0x01, 0xDA, 0x47, 0x04, 0x0B]

/-- HMAC with SHA-1. -/
def sha1MacOid : Bytes := [0x2A, 0x86, 0x48, 0x86, 0xF7, 0x0D, 0x02, 0x07]

/-- HMAC with the hash functions that PBKDF2 may use. -/
def macOids : List (Bytes × Algorithm) :=
  [(sha1MacOid, Hash.sha1),
    ([0x2A, 0x86, 0x48, 0x86, 0xF7, 0x0D, 0x02, 0x08], Hash.sha224),
    ([0x2A, 0x86, 0x48, 0x86, 0xF7, 0x0D, 0x02, 0x09], Hash.sha256),
    ([0x2A, 0x86, 0x48, 0x86, 0xF7, 0x0D, 0x02, 0x0A], Hash.sha384),
    ([0x2A, 0x86, 0x48, 0x86, 0xF7, 0x0D, 0x02, 0x0B], Hash.sha512)]

/-- The ciphers that are used with a vector alone. -/
def cipherOids : List (Bytes × BlockCipher) :=
  [([0x60, 0x86, 0x48, 0x01, 0x65, 0x03, 0x04, 0x01, 0x02], Cipher.Aes.cipher 16),
    ([0x60, 0x86, 0x48, 0x01, 0x65, 0x03, 0x04, 0x01, 0x16], Cipher.Aes.cipher 24),
    ([0x60, 0x86, 0x48, 0x01, 0x65, 0x03, 0x04, 0x01, 0x2A], Cipher.Aes.cipher 32),
    ([0x2A, 0x86, 0x48, 0x86, 0xF7, 0x0D, 0x03, 0x07], Cipher.Des.triple)]

/-- RC2, which is used with a number for the size of its keys and a vector. -/
def rc2Oid : Bytes := [0x2A, 0x86, 0x48, 0x86, 0xF7, 0x0D, 0x03, 0x02]

/-- The number for RC2 keys of 128 bits. -/
def rc2Version : Nat := 58

/-- The schemes of PKCS #12 with SHA-1, and their ciphers. -/
def pkcs12Oids : List (Bytes × BlockCipher) :=
  [([0x2A, 0x86, 0x48, 0x86, 0xF7, 0x0D, 0x01, 0x0C, 0x01, 0x03], Cipher.Des.triple),
    ([0x2A, 0x86, 0x48, 0x86, 0xF7, 0x0D, 0x01, 0x0C, 0x01, 0x06], Cipher.Rc2.cipher 5)]

/-- The scheme of PKCS #5 with MD5 and DES. -/
def md5DesOid : Bytes := [0x2A, 0x86, 0x48, 0x86, 0xF7, 0x0D, 0x01, 0x05, 0x03]

/-! ## Containers -/

/-- Whether the parameters behind the name of an algorithm are left out or null. -/
def isAbsent : List Value → Bool
  | [] | [.null] => true
  | _ => false

/-- The hash function that PBKDF2 is used with: SHA-1 if none is named. What is left out has one
form, so SHA-1 is not named together with a null. -/
def derivationHash? : List Value → Option Algorithm
  | [] => some Hash.sha1
  | [.sequence [.oid mac, .null]] => if mac = sha1MacOid then none else macOids.lookup mac
  | [.sequence [.oid mac]] => macOids.lookup mac
  | _ => none

/-- The most rounds of PBKDF2. -/
def maxRounds : Nat := (1 <<< 31) - 1

/-- Parameters without the length of the key, which may be given but does not count. -/
def dropKeyLength : List Value → List Value
  | .integer _ :: rest => rest
  | rest => rest

/-- The key of the given length that a passphrase and the named derivation lead to. -/
def derivedKey? (passphrase derivation : Bytes) (parameters : List Value) (length : Nat) :
    Option Bytes :=
  if derivation = pbkdf2Oid then
    match parameters with
    | .octetString salt :: .integer rounds :: rest =>
      (derivationHash? (dropKeyLength rest)).bind fun h =>
        if 1 ≤ rounds && rounds ≤ maxRounds then some (h.pbkdf2 passphrase salt rounds length)
        else none
    | _ => none
  else if derivation = scryptOid then
    match parameters with
    | .octetString salt :: .integer cost :: .integer r :: .integer p :: rest =>
      if (dropKeyLength rest).isEmpty then Hash.Scrypt.scrypt? passphrase salt cost r p length
      else none
    | _ => none
  else none

/-- The cipher that is named with its parameters, and the vector that it begins with. -/
def namedCipher? (cipher : Bytes) : List Value → Option (BlockCipher × Bytes)
  | [.octetString iv] => (cipherOids.lookup cipher).map fun c => (c, iv)
  | [.sequence [.integer version, .octetString iv]] =>
    if cipher = rc2Oid && version = rc2Version then some (Cipher.Rc2.cipher 16, iv) else none
  | _ => none

/-- Undoes a scheme that names a derivation and a cipher. -/
def decryptPbes2? (passphrase text : Bytes) : List Value → Option Bytes
  | [.sequence [.oid derivation, .sequence parameters], .sequence (.oid cipher :: rest)] =>
    (namedCipher? cipher rest).bind fun (c, iv) =>
      (derivedKey? passphrase derivation parameters c.keyLength).bind fun key =>
        c.decryptCbc? key iv text
  | _ => none

/-- Undoes a scheme of PKCS #12, in which the vector is derived too. -/
def decryptPkcs12? (c : BlockCipher) (passphrase salt : Bytes) (rounds : Nat) (text : Bytes) :
    Option Bytes :=
  match pkcs12Key? Hash.sha1 passphrase salt .key rounds c.keyLength,
    pkcs12Key? Hash.sha1 passphrase salt .vector rounds c.blockLength with
  | some key, some iv => c.decryptCbc? key iv text
  | _, _ => none

/-- Undoes the scheme of PKCS #5, in which the vector stands behind the key. -/
def decryptMd5Des? (passphrase salt : Bytes) (rounds : Nat) (text : Bytes) : Option Bytes :=
  if salt.length = saltLength then
    let derived := pbkdf1 Hash.md5 passphrase salt rounds 16
    Cipher.Des.single.decryptCbc? (derived.take 8) (derived.drop 8) text
  else none

/-- Undoes the encryption of a container with a passphrase. -/
def decrypt? (passphrase : Bytes) : Value → Option Bytes
  | .sequence [.sequence [.oid scheme, .sequence parameters], .octetString text] =>
    if scheme = pbes2Oid then decryptPbes2? passphrase text parameters
    else
      match parameters with
      | [.octetString salt, .integer rounds] =>
        if scheme = md5DesOid then decryptMd5Des? passphrase salt rounds text
        else (pkcs12Oids.lookup scheme).bind fun c => decryptPkcs12? c passphrase salt rounds text
      | _ => none
  | _ => none

/-! ## Blocks -/

/-- The header that says whether the content of a block is encrypted. -/
def kindHeader : String := "Proc-Type"

/-- What that header says of encrypted content. -/
def encryptedKind : String := "4,ENCRYPTED"

/-- The header with the name of the cipher and the vector that it begins with. -/
def cipherHeader : String := "DEK-Info"

/-- The ciphers of blocks. -/
def blockCiphers : List (String × BlockCipher) :=
  [("AES-128-CBC", Cipher.Aes.cipher 16), ("AES-256-CBC", Cipher.Aes.cipher 32),
    ("DES-EDE3-CBC", Cipher.Des.triple)]

/-- The content of a block, decrypted with a passphrase as the header for the cipher says. -/
def decryptBlock? (block : Pem.Block) (passphrase : Bytes) : Option Bytes :=
  match block.header? cipherHeader with
  | none => none
  | some info =>
    let cipher := info.toList.takeWhile (· != ',')
    match info.toList.drop cipher.length with
    | _ :: digits =>
      match blockCiphers.lookup (String.ofList cipher), Codec.Hex.decode? digits with
      | some c, some vector =>
        if vector.length < saltLength then none
        else
          c.decryptCbc? (blockKey passphrase (vector.take saltLength) c.keyLength) vector
            block.bytes
      | _, _ => none
    | [] => none

/-! ## Loaders -/

/-- The ways in which a loader undoes encryption with a passphrase: that of a container, and that of
the content of a block. -/
structure Decryption where
  container? : (passphrase : Bytes) → Value → Option Bytes
  block? : Pem.Block → (passphrase : Bytes) → Option Bytes

/-- The ways of this module. -/
def Decryption.standard : Decryption where
  container? := decrypt?
  block? := decryptBlock?

/-- The content of a block that may be encrypted, and whether the passphrase was used for it. -/
def openBlock? (block : Pem.Block) (passphrase : Option Bytes)
    (how : Decryption := .standard) : Option (Bytes × Bool) :=
  match block.header? kindHeader with
  | none => some (block.bytes, false)
  | some kind =>
    if kind = encryptedKind then
      passphrase.bind fun secret => (how.block? block secret).map fun bytes => (bytes, true)
    else none

end SealedPage.Key
