import SealedPage.Cipher.Chaining

/-!
# RC2

The block cipher of RFC 2268, with keys whose bits all count, `cipher`. Blocks are four words of
sixteen bits.
-/

namespace SealedPage.Cipher.Rc2

/-- The table that keys are expanded with, a permutation of all bytes. -/
def table : Array UInt8 :=
  #[0xD9, 0x78, 0xF9, 0xC4, 0x19, 0xDD, 0xB5, 0xED, 0x28, 0xE9, 0xFD, 0x79, 0x4A, 0xA0, 0xD8, 0x9D,
    0xC6, 0x7E, 0x37, 0x83, 0x2B, 0x76, 0x53, 0x8E, 0x62, 0x4C, 0x64, 0x88, 0x44, 0x8B, 0xFB, 0xA2,
    0x17, 0x9A, 0x59, 0xF5, 0x87, 0xB3, 0x4F, 0x13, 0x61, 0x45, 0x6D, 0x8D, 0x09, 0x81, 0x7D, 0x32,
    0xBD, 0x8F, 0x40, 0xEB, 0x86, 0xB7, 0x7B, 0x0B, 0xF0, 0x95, 0x21, 0x22, 0x5C, 0x6B, 0x4E, 0x82,
    0x54, 0xD6, 0x65, 0x93, 0xCE, 0x60, 0xB2, 0x1C, 0x73, 0x56, 0xC0, 0x14, 0xA7, 0x8C, 0xF1, 0xDC,
    0x12, 0x75, 0xCA, 0x1F, 0x3B, 0xBE, 0xE4, 0xD1, 0x42, 0x3D, 0xD4, 0x30, 0xA3, 0x3C, 0xB6, 0x26,
    0x6F, 0xBF, 0x0E, 0xDA, 0x46, 0x69, 0x07, 0x57, 0x27, 0xF2, 0x1D, 0x9B, 0xBC, 0x94, 0x43, 0x03,
    0xF8, 0x11, 0xC7, 0xF6, 0x90, 0xEF, 0x3E, 0xE7, 0x06, 0xC3, 0xD5, 0x2F, 0xC8, 0x66, 0x1E, 0xD7,
    0x08, 0xE8, 0xEA, 0xDE, 0x80, 0x52, 0xEE, 0xF7, 0x84, 0xAA, 0x72, 0xAC, 0x35, 0x4D, 0x6A, 0x2A,
    0x96, 0x1A, 0xD2, 0x71, 0x5A, 0x15, 0x49, 0x74, 0x4B, 0x9F, 0xD0, 0x5E, 0x04, 0x18, 0xA4, 0xEC,
    0xC2, 0xE0, 0x41, 0x6E, 0x0F, 0x51, 0xCB, 0xCC, 0x24, 0x91, 0xAF, 0x50, 0xA1, 0xF4, 0x70, 0x39,
    0x99, 0x7C, 0x3A, 0x85, 0x23, 0xB8, 0xB4, 0x7A, 0xFC, 0x02, 0x36, 0x5B, 0x25, 0x55, 0x97, 0x31,
    0x2D, 0x5D, 0xFA, 0x98, 0xE3, 0x8A, 0x92, 0xAE, 0x05, 0xDF, 0x29, 0x10, 0x67, 0x6C, 0xBA, 0xC9,
    0xD3, 0x00, 0xE6, 0xCF, 0xE1, 0x9E, 0xA8, 0x2C, 0x63, 0x16, 0x01, 0x3F, 0x58, 0xE2, 0x89, 0xA9,
    0x0D, 0x38, 0x34, 0x1B, 0xAB, 0x33, 0xFF, 0xB0, 0xBB, 0x48, 0x0C, 0x5F, 0xB9, 0xB1, 0xCD, 0x2E,
    0xC5, 0xF3, 0xDB, 0x47, 0xE5, 0xA5, 0x9C, 0x77, 0x0A, 0xA6, 0x20, 0x68, 0xFE, 0x7F, 0xC1, 0xAD]

/-- A look-up by byte. -/
def look (b : UInt8) : UInt8 :=
  table.getD b.toNat 0

/-- Adds `count` bytes behind a key, each from the last byte and the one `size` places back; the
bytes stand in reverse. -/
def extend (size : Nat) : (count : Nat) → Bytes → Bytes
  | 0, done => done
  | count + 1, done =>
    extend size count (look (done.headD 0 + (done[size - 1]?).getD 0) :: done)

/-- Replaces `count` bytes in front of `done`, each from the byte behind it and the one `size`
places on. -/
def replace (size : Nat) : (count : Nat) → Bytes → Bytes
  | 0, done => done
  | count + 1, done =>
    replace size count (look (done.headD 0 ^^^ (done[size - 1]?).getD 0) :: done)

/-- Words from bytes, the lowest first. -/
def words : Bytes → List UInt16
  | a :: b :: rest => (a.toUInt16 ||| (b.toUInt16 <<< 8)) :: words rest
  | _ => []

/-- The bytes of words, the lowest first. -/
def wordBytes (ws : List UInt16) : Bytes :=
  ws.flatMap fun w : UInt16 => [w.toUInt8, (w >>> 8).toUInt8]

/-- The sixty-four words of an expanded key. -/
def expand (key : Bytes) : Array UInt16 :=
  let size := key.length
  let bytes := (extend size (128 - size) key.reverse).reverse
  let last := bytes.drop (128 - size)
  (words (replace size (128 - size) (look (last.headD 0) :: last.drop 1))).toArray

/-- A word rotated to the right. -/
def rotate (x n : UInt16) : UInt16 :=
  (x >>> n) ||| (x <<< (16 - n))

/-- A block. -/
structure Block where
  a : UInt16
  b : UInt16
  c : UInt16
  d : UInt16
  deriving DecidableEq, Repr

/-- A word before it was mixed, given the three words that it was mixed with, the latest first. -/
def unmixWord (word x y z key rotation : UInt16) : UInt16 :=
  rotate word rotation - key - (x &&& y) - ((x ^^^ 0xFFFF) &&& z)

/-- Undoes a mixing round with the four words of a key from place `i` on. -/
def unmix (keys : Array UInt16) (i : Nat) (s : Block) : Block :=
  let d := unmixWord s.d s.c s.b s.a (keys.getD (i + 3) 0) 5
  let c := unmixWord s.c s.b s.a d (keys.getD (i + 2) 0) 3
  let b := unmixWord s.b s.a d c (keys.getD (i + 1) 0) 2
  let a := unmixWord s.a d c b (keys.getD i 0) 1
  ⟨a, b, c, d⟩

/-- Undoes a mashing round, in which each word chose a word of the key. -/
def unmash (keys : Array UInt16) (s : Block) : Block :=
  let chosen (w : UInt16) := keys.getD (w &&& 63).toNat 0
  let d := s.d - chosen s.c
  let c := s.c - chosen s.b
  let b := s.b - chosen s.a
  let a := s.a - chosen d
  ⟨a, b, c, d⟩

/-- Undoes the last `count` mixing rounds; between five and six and between six and five of them
lies a mashing round. -/
def unmixAll (keys : Array UInt16) : (count : Nat) → Block → Block
  | 0, s => s
  | count + 1, s =>
    let s := if count = 10 || count = 4 then unmash keys s else s
    unmixAll keys count (unmix keys (4 * count) s)

/-- Decrypts a block of eight bytes. -/
def decryptBlock (keys : Array UInt16) (block : Bytes) : Bytes :=
  match words block with
  | [a, b, c, d] =>
    let s := unmixAll keys 16 ⟨a, b, c, d⟩
    wordBytes [s.a, s.b, s.c, s.d]
  | _ => []

/-- RC2 with keys of the given length. -/
def cipher (keyLength : Nat) : BlockCipher where
  keyLength := keyLength
  blockLength := 8
  Schedule := Array UInt16
  schedule := expand
  decryptBlock := decryptBlock

end SealedPage.Cipher.Rc2
