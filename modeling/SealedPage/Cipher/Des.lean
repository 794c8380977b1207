import SealedPage.Cipher.Chaining

/-!
# DES

The block cipher of FIPS 46-3, alone and three times over, `single` and `triple`. A block is taken
apart into bits, which tables then permute; a table names the places counted from one.
-/

namespace SealedPage.Cipher.Des

/-! ## Tables -/

/-- The bits of a block at the beginning. -/
def initial : List Nat :=
  [58, 50, 42, 34, 26, 18, 10, 2, 60, 52, 44, 36, 28, 20, 12, 4,
   62, 54, 46, 38, 30, 22, 14, 6, 64, 56, 48, 40, 32, 24, 16, 8,
   57, 49, 41, 33, 25, 17, 9, 1, 59, 51, 43, 35, 27, 19, 11, 3,
   61, 53, 45, 37, 29, 21, 13, 5, 63, 55, 47, 39, 31, 23, 15, 7]

/-- The bits of a block at the end, the inverse of the first table. -/
def final : List Nat :=
  [40, 8, 48, 16, 56, 24, 64, 32, 39, 7, 47, 15, 55, 23, 63, 31,
   38, 6, 46, 14, 54, 22, 62, 30, 37, 5, 45, 13, 53, 21, 61, 29,
   36, 4, 44, 12, 52, 20, 60, 28, 35, 3, 43, 11, 51, 19, 59, 27,
   34, 2, 42, 10, 50, 18, 58, 26, 33, 1, 41, 9, 49, 17, 57, 25]

/-- The bits of a half, some of them twice. -/
def expansion : List Nat :=
  [32, 1, 2, 3, 4, 5, 4, 5, 6, 7, 8, 9, 8, 9, 10, 11,
   12, 13, 12, 13, 14, 15, 16, 17, 16, 17, 18, 19, 20, 21, 20, 21,
   22, 23, 24, 25, 24, 25, 26, 27, 28, 29, 28, 29, 30, 31, 32, 1]

/-- The bits of a half behind the boxes. -/
def mixing : List Nat :=
  [16, 7, 20, 21, 29, 12, 28, 17, 1, 15, 23, 26, 5, 18, 31, 10,
   2, 8, 24, 14, 32, 27, 3, 9, 19, 13, 30, 6, 22, 11, 4, 25]

/-- The bits of a key that count; the last bit of each byte does not. -/
def keyChoice : List Nat :=
  [57, 49, 41, 33, 25, 17, 9, 1, 58, 50, 42, 34, 26, 18,
   10, 2, 59, 51, 43, 35, 27, 19, 11, 3, 60, 52, 44, 36,
   63, 55, 47, 39, 31, 23, 15, 7, 62, 54, 46, 38, 30, 22,
   14, 6, 61, 53, 45, 37, 29, 21, 13, 5, 28, 20, 12, 4]

/-- The bits of the turned halves of a key that make a round key. -/
def roundChoice : List Nat :=
  [14, 17, 11, 24, 1, 5, 3, 28, 15, 6, 21, 10, 23, 19, 12, 4,
   26, 8, 16, 7, 27, 20, 13, 2, 41, 52, 31, 37, 47, 55, 30, 40,
   51, 45, 33, 48, 44, 49, 39, 56, 34, 53, 46, 42, 50, 36, 29, 32]

/-- By how many places the halves of a key are turned before each round. -/
def turns : List Nat :=
  [1, 1, 2, 2, 2, 2, 2, 2, 1, 2, 2, 2, 2, 2, 2, 1]

/-- The boxes, each with four rows of sixteen numbers. -/
def boxes : List (Array Nat) :=
  [#[14, 4, 13, 1, 2, 15, 11, 8, 3, 10, 6, 12, 5, 9, 0, 7,
     0, 15, 7, 4, 14, 2, 13, 1, 10, 6, 12, 11, 9, 5, 3, 8,
     4, 1, 14, 8, 13, 6, 2, 11, 15, 12, 9, 7, 3, 10, 5, 0,
     15, 12, 8, 2, 4, 9, 1, 7, 5, 11, 3, 14, 10, 0, 6, 13],
   #[15, 1, 8, 14, 6, 11, 3, 4, 9, 7, 2, 13, 12, 0, 5, 10,
     3, 13, 4, 7, 15, 2, 8, 14, 12, 0, 1, 10, 6, 9, 11, 5,
     0, 14, 7, 11, 10, 4, 13, 1, 5, 8, 12, 6, 9, 3, 2, 15,
     13, 8, 10, 1, 3, 15, 4, 2, 11, 6, 7, 12, 0, 5, 14, 9],
   #[10, 0, 9, 14, 6, 3, 15, 5, 1, 13, 12, 7, 11, 4, 2, 8,
     13, 7, 0, 9, 3, 4, 6, 10, 2, 8, 5, 14, 12, 11, 15, 1,
     13, 6, 4, 9, 8, 15, 3, 0, 11, 1, 2, 12, 5, 10, 14, 7,
     1, 10, 13, 0, 6, 9, 8, 7, 4, 15, 14, 3, 11, 5, 2, 12],
   #[7, 13, 14, 3, 0, 6, 9, 10, 1, 2, 8, 5, 11, 12, 4, 15,
     13, 8, 11, 5, 6, 15, 0, 3, 4, 7, 2, 12, 1, 10, 14, 9,
     10, 6, 9, 0, 12, 11, 7, 13, 15, 1, 3, 14, 5, 2, 8, 4,
     3, 15, 0, 6, 10, 1, 13, 8, 9, 4, 5, 11, 12, 7, 2, 14],
   #[2, 12, 4, 1, 7, 10, 11, 6, 8, 5, 3, 15, 13, 0, 14, 9,
     14, 11, 2, 12, 4, 7, 13, 1, 5, 0, 15, 10, 3, 9, 8, 6,
     4, 2, 1, 11, 10, 13, 7, 8, 15, 9, 12, 5, 6, 3, 0, 14,
     11, 8, 12, 7, 1, 14, 2, 13, 6, 15, 0, 9, 10, 4, 5, 3],
   #[12, 1, 10, 15, 9, 2, 6, 8, 0, 13, 3, 4, 14, 7, 5, 11,
     10, 15, 4, 2, 7, 12, 9, 5, 6, 1, 13, 14, 0, 11, 3, 8,
     9, 14, 15, 5, 2, 8, 12, 3, 7, 0, 4, 10, 1, 13, 11, 6,
     4, 3, 2, 12, 9, 5, 15, 10, 11, 14, 1, 7, 6, 0, 8, 13],
   #[4, 11, 2, 14, 15, 0, 8, 13, 3, 12, 9, 7, 5, 10, 6, 1,
     13, 0, 11, 7, 4, 9, 1, 10, 14, 3, 5, 12, 2, 15, 8, 6,
     1, 4, 11, 13, 12, 3, 7, 14, 10, 15, 6, 8, 0, 5, 9, 2,
     6, 11, 13, 8, 1, 4, 10, 7, 9, 5, 0, 15, 14, 2, 3, 12],
   #[13, 2, 8, 4, 6, 15, 11, 1, 10, 9, 3, 14, 5, 0, 12, 7,
     1, 15, 13, 8, 10, 3, 7, 4, 12, 5, 6, 11, 0, 14, 9, 2,
     7, 11, 4, 1, 9, 12, 14, 2, 0, 6, 10, 13, 15, 3, 5, 8,
     2, 1, 14, 7, 4, 10, 8, 13, 15, 12, 9, 0, 3, 5, 6, 11]]

/-! ## Bits -/

/-- The lowest `count` bits of a number, the highest first. -/
def lowBits (count n : Nat) : List Bool :=
  (List.range count).reverse.map fun i => n.testBit i

/-- The bits of bytes. -/
def bits (bytes : Bytes) : List Bool :=
  bytes.flatMap fun b => lowBits 8 b.toNat

/-- The number that bits write, the highest first. -/
def number (bs : List Bool) : Nat :=
  bs.foldl (fun n b => 2 * n + b.toNat) 0

/-- Bits in whole bytes. -/
def bytes : List Bool → Bytes
  | a :: b :: c :: d :: e :: f :: g :: h :: rest =>
    (number [a, b, c, d, e, f, g, h]).toUInt8 :: bytes rest
  | _ => []

/-- The bits that a table names. -/
def pick (table : List Nat) (bs : List Bool) : List Bool :=
  let array := bs.toArray
  table.map fun i => array.getD (i - 1) false

/-- Bits turned to the left. -/
def turn (n : Nat) (bs : List Bool) : List Bool :=
  bs.drop n ++ bs.take n

/-- Two lists of bits combined by exclusive or. -/
def combine (xs ys : List Bool) : List Bool :=
  List.zipWith xor xs ys

/-! ## Rounds -/

/-- The keys of the rounds from the halves of a key. -/
def keysFrom (left right : List Bool) : (turns : List Nat) → List (List Bool)
  | [] => []
  | n :: turns =>
    pick roundChoice (turn n left ++ turn n right) :: keysFrom (turn n left) (turn n right) turns

/-- The keys of the sixteen rounds. -/
def roundKeys (key : Bytes) : List (List Bool) :=
  let chosen := pick keyChoice (bits key)
  keysFrom (chosen.take 28) (chosen.drop 28) turns

/-- What boxes make of bits, six by six: the outer two name the row, the inner four the column. -/
def substitute : List (Array Nat) → List Bool → List Bool
  | box :: boxes, a :: b :: c :: d :: e :: f :: rest =>
    lowBits 4 (box.getD (number [a, f, b, c, d, e]) 0) ++ substitute boxes rest
  | _, _ => []

/-- What a round makes of one half of a block. -/
def mix (half key : List Bool) : List Bool :=
  pick mixing (substitute boxes (combine (pick expansion half) key))

/-- The two halves of a block behind the rounds with the given keys. -/
def rounds (keys : List (List Bool)) (left right : List Bool) : List Bool × List Bool :=
  keys.foldl (fun (left, right) key => (right, combine left (mix right key))) (left, right)

/-- Encrypts a block of eight bytes with round keys, or decrypts it with the same keys reversed. -/
def crypt (keys : List (List Bool)) (block : Bytes) : Bytes :=
  let chosen := pick initial (bits block)
  let (left, right) := rounds keys (chosen.take 32) (chosen.drop 32)
  bytes (pick final (right ++ left))

/-- DES. -/
def single : BlockCipher where
  keyLength := 8
  blockLength := 8
  Schedule := List (List Bool)
  schedule key := (roundKeys key).reverse
  decryptBlock := crypt

/-- Triple DES with three keys: a block was encrypted, decrypted and encrypted. -/
def triple : BlockCipher where
  keyLength := 24
  blockLength := 8
  Schedule := List (List (List Bool))
  schedule key :=
    [(roundKeys (key.drop 16)).reverse, roundKeys ((key.drop 8).take 8),
      (roundKeys (key.take 8)).reverse]
  decryptBlock keys block := keys.foldl (fun block keys => crypt keys block) block

end SealedPage.Cipher.Des
