import SealedPage.Datum

/-!
# Cipher block chaining

Decryption of padded texts with any block cipher: each block is decrypted and combined with the
encrypted block before it, `decryptCbc?`.
-/

namespace SealedPage.Cipher

/-- The bytes of two blocks combined by exclusive or. -/
def xorBlocks (x y : Bytes) : Bytes :=
  List.zipWith (· ^^^ ·) x y

/-- A block cipher: the lengths of its keys and blocks, and how it decrypts a block. What depends on
the key alone comes first. -/
structure BlockCipher where
  keyLength : Nat
  blockLength : Nat
  Schedule : Type
  schedule : (key : Bytes) → Schedule
  decryptBlock : Schedule → Bytes → Bytes

namespace BlockCipher

/-- Decrypts whole blocks in chaining mode, for at most `fuel` blocks; the plain blocks so far
stand in reverse. -/
def decryptFrom (c : BlockCipher) (s : c.Schedule) (done : List Bytes) (before : Bytes) :
    (fuel : Nat) → Bytes → Bytes
  | 0, _ => done.reverse.flatten
  | fuel + 1, rest =>
    if rest.isEmpty then done.reverse.flatten
    else
      let block := rest.take c.blockLength
      decryptFrom c s (xorBlocks (c.decryptBlock s block) before :: done) block fuel
        (rest.drop c.blockLength)

/-- The text without its padding: the last byte says how many bytes of its value end the text. -/
def unpad? (blockLength : Nat) (s : Bytes) : Option Bytes :=
  match s.getLast? with
  | none => none
  | some n =>
    let count := n.toNat
    let body := s.length - count
    if 1 ≤ count && count ≤ blockLength && count ≤ s.length && (s.drop body).all (· == n) then
      some (s.take body)
    else none

/-- Decrypts a padded text, if its length and its padding are right. -/
def decryptCbc? (c : BlockCipher) (key iv text : Bytes) : Option Bytes :=
  if key.length = c.keyLength && iv.length = c.blockLength && text.length % c.blockLength = 0 &&
      !text.isEmpty then
    unpad? c.blockLength
      (c.decryptFrom (c.schedule key) [] iv (text.length / c.blockLength) text)
  else none

end BlockCipher

end SealedPage.Cipher
