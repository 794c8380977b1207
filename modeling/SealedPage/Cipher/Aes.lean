import SealedPage.Cipher.Chaining

/-!
# AES

The block cipher of FIPS 197, with keys of any of the three sizes, `cipher`. The tables are computed
from the field of 256 elements, not written down.
-/

namespace SealedPage.Cipher.Aes

/-- A byte times the generator `x` of the field. -/
def double (b : UInt8) : UInt8 :=
  (b <<< 1) ^^^ (if b < 0x80 then 0 else 0x1B)

/-- The product in the field, bit by bit of the second factor. -/
def times (a : UInt8) : (bits : Nat) → UInt8 → UInt8
  | 0, _ => 0
  | bits + 1, b => (if b &&& 1 = 1 then a else 0) ^^^ times (double a) bits (b >>> 1)

/-- The product in the field. -/
def mul (a b : UInt8) : UInt8 :=
  times a 8 b

/-- The inverse in the field, the 254th power; zero goes to zero. -/
def inverse (b : UInt8) : UInt8 :=
  let b2 := mul b b
  let b3 := mul b2 b
  let b6 := mul b3 b3
  let b12 := mul b6 b6
  let b15 := mul b12 b3
  let b30 := mul b15 b15
  let b60 := mul b30 b30
  let b120 := mul b60 b60
  let b126 := mul b120 b6
  let b127 := mul b126 b
  mul b127 b127

/-- A byte rotated to the left. -/
def rotate (b n : UInt8) : UInt8 :=
  (b <<< n) ||| (b >>> (8 - n))

/-- The substitution of a byte. -/
def substitute (b : UInt8) : UInt8 :=
  let i := inverse b
  i ^^^ rotate i 1 ^^^ rotate i 2 ^^^ rotate i 3 ^^^ rotate i 4 ^^^ 0x63

/-- The substitutions of all bytes. -/
def table : Array UInt8 :=
  Array.ofFn fun i : Fin 256 => substitute i.val.toUInt8

/-- The inverse of the substitutions of all bytes. -/
def inverseTable : Array UInt8 :=
  (List.range 256).foldl (fun t i => t.setIfInBounds (table.getD i 0).toNat i.toUInt8)
    (Array.replicate 256 0)

/-- The products of all bytes with a factor. -/
def products (factor : UInt8) : Array UInt8 :=
  Array.ofFn fun i : Fin 256 => mul i.val.toUInt8 factor

/-- The products with the factors of the inverse mixing of columns. -/
def products9 : Array UInt8 := products 9
def products11 : Array UInt8 := products 11
def products13 : Array UInt8 := products 13
def products14 : Array UInt8 := products 14

/-- A look-up by byte. -/
def look (t : Array UInt8) (b : UInt8) : UInt8 :=
  t.getD b.toNat 0

/-- The words of the key schedule, each of four bytes, the latest first; the key has `size` words,
and `i` counts the words. -/
def expandFrom (size : Nat) : (count i : Nat) → (constant : UInt8) → List Bytes → List Bytes
  | 0, _, _, words => words
  | count + 1, i, constant, words =>
    let last := words.headD []
    let base := (words[size - 1]?).getD []
    let sub := last.map (look table)
    if i % size = 0 then
      let turned := sub.drop 1 ++ sub.take 1
      let mixed := List.zipWith (· ^^^ ·) turned [constant, 0, 0, 0]
      expandFrom size count (i + 1) (double constant)
        (List.zipWith (· ^^^ ·) base mixed :: words)
    else if 6 < size && i % size = 4 then
      expandFrom size count (i + 1) constant (List.zipWith (· ^^^ ·) base sub :: words)
    else expandFrom size count (i + 1) constant (List.zipWith (· ^^^ ·) base last :: words)

/-- Bytes in groups of four. -/
def fours : Bytes → List Bytes
  | a :: b :: c :: d :: rest => [a, b, c, d] :: fours rest
  | _ => []

/-- Groups of four words joined to keys of sixteen bytes. -/
def joinFours : List Bytes → List Bytes
  | a :: b :: c :: d :: rest => (a ++ b ++ c ++ d) :: joinFours rest
  | _ => []

/-- The round keys of a key, the last one first. There are seven more of them than the key has
words. -/
def roundKeys (key : Bytes) : List Bytes :=
  let size := key.length / 4
  (joinFours (expandFrom size (28 + 3 * size) size 1 (fours key).reverse).reverse).reverse

/-- Turns the rows back and undoes the substitution. -/
def unshift (block : Bytes) : Bytes :=
  let b := block.toArray
  [0, 13, 10, 7, 4, 1, 14, 11, 8, 5, 2, 15, 12, 9, 6, 3].map fun i =>
    look inverseTable (b.getD i 0)

/-- Undoes the mixing of the columns. -/
def unmix : Bytes → Bytes
  | a :: b :: c :: d :: rest =>
    (look products14 a ^^^ look products11 b ^^^ look products13 c ^^^ look products9 d) ::
    (look products9 a ^^^ look products14 b ^^^ look products11 c ^^^ look products13 d) ::
    (look products13 a ^^^ look products9 b ^^^ look products14 c ^^^ look products11 d) ::
    (look products11 a ^^^ look products13 b ^^^ look products9 c ^^^ look products14 d) ::
    unmix rest
  | _ => []

/-- Undoes the rounds behind the first key, with the keys still to come. -/
def undoRounds (block : Bytes) : List Bytes → Bytes
  | [] => block
  | [key] => xorBlocks (unshift block) key
  | key :: keys => undoRounds (unmix (xorBlocks (unshift block) key)) keys

/-- Decrypts a block of sixteen bytes with the round keys, the last one first. -/
def decryptBlock (keys : List Bytes) (block : Bytes) : Bytes :=
  match keys with
  | [] => block
  | key :: keys => undoRounds (xorBlocks block key) keys

/-- AES with keys of the given length. -/
def cipher (keyLength : Nat) : BlockCipher where
  keyLength := keyLength
  blockLength := 16
  Schedule := List Bytes
  schedule := roundKeys
  decryptBlock := decryptBlock

end SealedPage.Cipher.Aes
