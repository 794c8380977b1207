import SealedPage.Datum

/-!
# Hashing block by block

What the hash functions here have in common: a message is padded to whole blocks, `padding`, and
its words are taken one after the other, `absorb`, so that each full block is mixed into a state.
The functions differ in their states, in how a block is mixed in, and in the order of bytes.
-/

namespace SealedPage.Hash

/-- A hash function, with the lengths of its blocks and of its digests in bytes. -/
structure Algorithm where
  digest : Bytes → Bytes
  blockLength : Nat
  digestLength : Nat

/-- A word from its bytes, the highest first. -/
def highWord (a b c d : UInt8) : UInt32 :=
  (a.toUInt32 <<< 24) ||| (b.toUInt32 <<< 16) ||| (c.toUInt32 <<< 8) ||| d.toUInt32

/-- The bytes of a word, the highest first. -/
def highBytes (w : UInt32) : Bytes :=
  [(w >>> 24).toUInt8, (w >>> 16).toUInt8, (w >>> 8).toUInt8, w.toUInt8]

/-- A word from its bytes, the lowest first. -/
def lowWord (a b c d : UInt8) : UInt32 :=
  highWord d c b a

/-- The bytes of a word, the lowest first. -/
def lowBytes (w : UInt32) : Bytes :=
  [w.toUInt8, (w >>> 8).toUInt8, (w >>> 16).toUInt8, (w >>> 24).toUInt8]

/-- A word rotated to the left. -/
def rotateLeft (x n : UInt32) : UInt32 :=
  (x <<< n) ||| (x >>> (32 - n))

section

variable {σ : Type} (compress : σ → Array UInt32 → σ) (size : Nat)

/-- Takes the next word of a message: once there are `size` of them, they are mixed in. -/
def push : σ × Array UInt32 → UInt32 → σ × Array UInt32
  | (s, block), w =>
    let block := block.push w
    if block.size = size then (compress s block, #[]) else (s, block)

/-- Takes the bytes of a message four by four. -/
def absorb (word : UInt8 → UInt8 → UInt8 → UInt8 → UInt32) (s : σ × Array UInt32) :
    Bytes → σ × Array UInt32
  | a :: b :: c :: d :: rest => absorb word (push compress size s (word a b c d)) rest
  | _ => s

end

/-- The lowest `count` bytes of a number, the lowest first. -/
def countBytes (count n : Nat) : Bytes :=
  (List.range count).map fun i => (Nat.shiftRight n (8 * i)).toUInt8

/-- The mark behind a message and the zeros up to where `count` bytes fill a block; there the length
of the message in bits follows. -/
def padding (blockLength count length : Nat) : Bytes :=
  0x80 :: List.replicate ((2 * blockLength - 1 - count - length % blockLength) % blockLength) 0

end SealedPage.Hash
