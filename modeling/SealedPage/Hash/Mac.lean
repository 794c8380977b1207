import SealedPage.Hash.Md5
import SealedPage.Hash.Sha1
import SealedPage.Hash.Sha256
import SealedPage.Hash.Sha512

/-!
# Keyed hashing

HMAC, and PBKDF2 on top of it, which makes a key from a passphrase, `pbkdf2`. Both work with any
hash function.
-/

namespace SealedPage.Hash

/-- MD5. -/
def md5 : Algorithm := ⟨Md5.digest, 64, 16⟩

/-- SHA-1. -/
def sha1 : Algorithm := ⟨Sha1.digest, 64, 20⟩

/-- SHA-224. -/
def sha224 : Algorithm := ⟨Sha256.digest224, 64, 28⟩

/-- SHA-256. -/
def sha256 : Algorithm := ⟨Sha256.digest, 64, 32⟩

/-- SHA-384. -/
def sha384 : Algorithm := ⟨Sha512.digest384, 128, 48⟩

/-- SHA-512. -/
def sha512 : Algorithm := ⟨Sha512.digest, 128, 64⟩

/-- The bytes of two lists combined by exclusive or, as far as both go. -/
def xorBytes (xs ys : Bytes) : Bytes :=
  List.zipWith (· ^^^ ·) xs ys

/-- A number in four bytes, the highest first. -/
def fourBytes (n : Nat) : Bytes :=
  (countBytes 4 n).reverse

namespace Algorithm

variable (h : Algorithm)

/-- A key brought to the length of a block: a longer one is hashed, a shorter one filled up. -/
def blockKey (key : Bytes) : Bytes :=
  let key := if h.blockLength < key.length then h.digest key else key
  key ++ List.replicate (h.blockLength - key.length) 0

/-- HMAC of a message. -/
def hmac (key message : Bytes) : Bytes :=
  let key := h.blockKey key
  h.digest (key.map (· ^^^ 0x5C) ++ h.digest (key.map (· ^^^ 0x36) ++ message))

/-- Hashes on from `last` for the given number of rounds, combining all results. -/
def stretch (key : Bytes) : (rounds : Nat) → (last sum : Bytes) → Bytes
  | 0, _, sum => sum
  | rounds + 1, last, sum =>
    let next := h.hmac key last
    stretch key rounds next (xorBytes sum next)

/-- A block of a derived key. -/
def pbkdf2Block (passphrase salt : Bytes) (rounds index : Nat) : Bytes :=
  let first := h.hmac passphrase (salt ++ fourBytes index)
  h.stretch passphrase (rounds - 1) first first

/-- A key of the given length. -/
def pbkdf2 (passphrase salt : Bytes) (rounds length : Nat) : Bytes :=
  ((List.range ((length + h.digestLength - 1) / h.digestLength)).flatMap fun i =>
    h.pbkdf2Block passphrase salt rounds (i + 1)).take length

/-- Hashes a message again and again, `rounds` times in all and at least once. -/
def iterate (message : Bytes) (rounds : Nat) : Bytes :=
  (List.range (rounds - 1)).foldl (fun last _ => h.digest last) (h.digest message)

end Algorithm

end SealedPage.Hash
