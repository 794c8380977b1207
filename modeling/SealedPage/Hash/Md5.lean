import SealedPage.Hash.Block

/-!
# MD5

The hash function of RFC 1321. It is no longer safe to sign with; here it only turns a passphrase
into the key of an encrypted block.
-/

namespace SealedPage.Hash.Md5

/-- The chaining state. -/
structure State where
  a : UInt32
  b : UInt32
  c : UInt32
  d : UInt32
  deriving DecidableEq, Repr

/-- The state before the first block. -/
def initial : State :=
  ⟨0x67452301, 0xEFCDAB89, 0x98BADCFE, 0x10325476⟩

/-- The constants of the steps. -/
def constants : Array UInt32 :=
  #[0xD76AA478, 0xE8C7B756, 0x242070DB, 0xC1BDCEEE, 0xF57C0FAF, 0x4787C62A, 0xA8304613, 0xFD469501,
    0x698098D8, 0x8B44F7AF, 0xFFFF5BB1, 0x895CD7BE, 0x6B901122, 0xFD987193, 0xA679438E, 0x49B40821,
    0xF61E2562, 0xC040B340, 0x265E5A51, 0xE9B6C7AA, 0xD62F105D, 0x02441453, 0xD8A1E681, 0xE7D3FBC8,
    0x21E1CDE6, 0xC33707D6, 0xF4D50D87, 0x455A14ED, 0xA9E3E905, 0xFCEFA3F8, 0x676F02D9, 0x8D2A4C8A,
    0xFFFA3942, 0x8771F681, 0x6D9D6122, 0xFDE5380C, 0xA4BEEA44, 0x4BDECFA9, 0xF6BB4B60, 0xBEBFBC70,
    0x289B7EC6, 0xEAA127FA, 0xD4EF3085, 0x04881D05, 0xD9D4D039, 0xE6DB99E5, 0x1FA27CF8, 0xC4AC5665,
    0xF4292244, 0x432AFF97, 0xAB9423A7, 0xFC93A039, 0x655B59C3, 0x8F0CCC92, 0xFFEFF47D, 0x85845DD1,
    0x6FA87E4F, 0xFE2CE6E0, 0xA3014314, 0x4E0811A1, 0xF7537E82, 0xBD3AF235, 0x2AD7D2BB, 0xEB86D391]

/-- The rotations of the four rounds; each round repeats its four. -/
def rotations : Array UInt32 :=
  #[7, 12, 17, 22, 5, 9, 14, 20, 4, 11, 16, 23, 6, 10, 15, 21]

/-- The bits of a word turned over. -/
def flip (x : UInt32) : UInt32 :=
  x ^^^ 0xFFFFFFFF

/-- What step `i` makes of three words, and the place of the word that it takes from the block. -/
def mix (i : Nat) (s : State) : UInt32 × Nat :=
  if i < 16 then ((s.b &&& s.c) ||| (flip s.b &&& s.d), i)
  else if i < 32 then ((s.d &&& s.b) ||| (flip s.d &&& s.c), (5 * i + 1) % 16)
  else if i < 48 then (s.b ^^^ s.c ^^^ s.d, (3 * i + 5) % 16)
  else (s.c ^^^ (s.b ||| flip s.d), (7 * i) % 16)

/-- Step `i`. -/
def step (block : Array UInt32) (i : Nat) (s : State) : State :=
  let (mixed, place) := mix i s
  let sum := s.a + mixed + constants.getD i 0 + block.getD place 0
  ⟨s.d, s.b + rotateLeft sum (rotations.getD (i / 16 * 4 + i % 4) 0), s.b, s.c⟩

/-- The last `count` of the sixty-four steps. -/
def steps (block : Array UInt32) : (count : Nat) → State → State
  | 0, s => s
  | count + 1, s => steps block count (step block (63 - count) s)

/-- Mixes a block of sixteen words into a state. -/
def compress (s : State) (block : Array UInt32) : State :=
  let t := steps block 64 s
  ⟨s.a + t.a, s.b + t.b, s.c + t.c, s.d + t.d⟩

/-- The digest of a message: 16 bytes. -/
def digest (message : Bytes) : Bytes :=
  let s := (absorb compress 16 lowWord (initial, #[]) (message ++ padding 64 8 message.length ++
    countBytes 8 (message.length * 8))).1
  lowBytes s.a ++ lowBytes s.b ++ lowBytes s.c ++ lowBytes s.d

end SealedPage.Hash.Md5
