import SealedPage.Hash.Block

/-!
# SHA-1

The oldest hash function of FIPS 180-4. It is no longer safe to sign with; here it only turns a
passphrase into the key of an encrypted container.
-/

namespace SealedPage.Hash.Sha1

/-- The chaining state. -/
structure State where
  a : UInt32
  b : UInt32
  c : UInt32
  d : UInt32
  e : UInt32
  deriving DecidableEq, Repr

/-- The state before the first block. -/
def initial : State :=
  ⟨0x67452301, 0xEFCDAB89, 0x98BADCFE, 0x10325476, 0xC3D2E1F0⟩

/-- The word of the schedule that follows the given ones. -/
def nextWord (w : Array UInt32) : UInt32 :=
  let i := w.size
  rotateLeft
    (w.getD (i - 3) 0 ^^^ w.getD (i - 8) 0 ^^^ w.getD (i - 14) 0 ^^^ w.getD (i - 16) 0) 1

/-- Adds the given number of words to a schedule. -/
def extend : (count : Nat) → Array UInt32 → Array UInt32
  | 0, w => w
  | count + 1, w => extend count (w.push (nextWord w))

/-- What round `i` makes of three words, and its constant. -/
def mix (i : Nat) (s : State) : UInt32 × UInt32 :=
  if i < 20 then ((s.b &&& s.c) ^^^ ((s.b ^^^ 0xFFFFFFFF) &&& s.d), 0x5A827999)
  else if i < 40 then (s.b ^^^ s.c ^^^ s.d, 0x6ED9EBA1)
  else if i < 60 then ((s.b &&& s.c) ^^^ (s.b &&& s.d) ^^^ (s.c &&& s.d), 0x8F1BBCDC)
  else (s.b ^^^ s.c ^^^ s.d, 0xCA62C1D6)

/-- Round `i`, with a word of the schedule. -/
def round (i : Nat) (w : UInt32) (s : State) : State :=
  let (mixed, constant) := mix i s
  ⟨rotateLeft s.a 5 + mixed + s.e + constant + w, s.a, rotateLeft s.b 30, s.c, s.d⟩

/-- The last `count` of the eighty rounds. -/
def rounds (w : Array UInt32) : (count : Nat) → State → State
  | 0, s => s
  | count + 1, s => rounds w count (round (79 - count) (w.getD (79 - count) 0) s)

/-- Mixes a block of sixteen words into a state. -/
def compress (s : State) (block : Array UInt32) : State :=
  let t := rounds (extend 64 block) 80 s
  ⟨s.a + t.a, s.b + t.b, s.c + t.c, s.d + t.d, s.e + t.e⟩

/-- The digest of a message: 20 bytes. -/
def digest (message : Bytes) : Bytes :=
  let s := (absorb compress 16 highWord (initial, #[]) (message ++ padding 64 8 message.length ++
    (countBytes 8 (message.length * 8)).reverse)).1
  highBytes s.a ++ highBytes s.b ++ highBytes s.c ++ highBytes s.d ++ highBytes s.e

end SealedPage.Hash.Sha1
