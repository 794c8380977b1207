import SealedPage.Hash.Block

/-!
# SHA-256

The hash function of FIPS 180-4 on words of 32 bits: each block of sixteen words is mixed into a
state of eight words. With another state to begin with and a part of the last state as the digest it
is SHA-224.
-/

namespace SealedPage.Hash.Sha256

/-- The chaining state. -/
structure State where
  a : UInt32
  b : UInt32
  c : UInt32
  d : UInt32
  e : UInt32
  f : UInt32
  g : UInt32
  h : UInt32
  deriving DecidableEq, Repr

/-- The state before the first block. -/
def initial : State :=
  ⟨0x6A09E667, 0xBB67AE85, 0x3C6EF372, 0xA54FF53A, 0x510E527F, 0x9B05688C, 0x1F83D9AB, 0x5BE0CD19⟩

/-- The state of SHA-224 before the first block. -/
def initial224 : State :=
  ⟨0xC1059ED8, 0x367CD507, 0x3070DD17, 0xF70E5939, 0xFFC00B31, 0x68581511, 0x64F98FA7, 0xBEFA4FA4⟩

/-- The constants of the rounds. -/
def constants : Array UInt32 :=
  #[0x428A2F98, 0x71374491, 0xB5C0FBCF, 0xE9B5DBA5, 0x3956C25B, 0x59F111F1, 0x923F82A4, 0xAB1C5ED5,
    0xD807AA98, 0x12835B01, 0x243185BE, 0x550C7DC3, 0x72BE5D74, 0x80DEB1FE, 0x9BDC06A7, 0xC19BF174,
    0xE49B69C1, 0xEFBE4786, 0x0FC19DC6, 0x240CA1CC, 0x2DE92C6F, 0x4A7484AA, 0x5CB0A9DC, 0x76F988DA,
    0x983E5152, 0xA831C66D, 0xB00327C8, 0xBF597FC7, 0xC6E00BF3, 0xD5A79147, 0x06CA6351, 0x14292967,
    0x27B70A85, 0x2E1B2138, 0x4D2C6DFC, 0x53380D13, 0x650A7354, 0x766A0ABB, 0x81C2C92E, 0x92722C85,
    0xA2BFE8A1, 0xA81A664B, 0xC24B8B70, 0xC76C51A3, 0xD192E819, 0xD6990624, 0xF40E3585, 0x106AA070,
    0x19A4C116, 0x1E376C08, 0x2748774C, 0x34B0BCB5, 0x391C0CB3, 0x4ED8AA4A, 0x5B9CCA4F, 0x682E6FF3,
    0x748F82EE, 0x78A5636F, 0x84C87814, 0x8CC70208, 0x90BEFFFA, 0xA4506CEB, 0xBEF9A3F7, 0xC67178F2]

/-- A word rotated to the right. -/
def rotate (x n : UInt32) : UInt32 :=
  (x >>> n) ||| (x <<< (32 - n))

/-- The word of the schedule that follows the given ones. -/
def nextWord (w : Array UInt32) : UInt32 :=
  let i := w.size
  let x := w.getD (i - 15) 0
  let y := w.getD (i - 2) 0
  let s₀ := rotate x 7 ^^^ rotate x 18 ^^^ (x >>> 3)
  let s₁ := rotate y 17 ^^^ rotate y 19 ^^^ (y >>> 10)
  w.getD (i - 16) 0 + s₀ + w.getD (i - 7) 0 + s₁

/-- Adds the given number of words to a schedule. -/
def extend : (count : Nat) → Array UInt32 → Array UInt32
  | 0, w => w
  | count + 1, w => extend count (w.push (nextWord w))

/-- One round, with a word of the schedule and the constant of the round. -/
def round (s : State) (w k : UInt32) : State :=
  let s₁ := rotate s.e 6 ^^^ rotate s.e 11 ^^^ rotate s.e 25
  let choice := (s.e &&& s.f) ^^^ ((s.e ^^^ 0xFFFFFFFF) &&& s.g)
  let t₁ := s.h + s₁ + choice + k + w
  let s₀ := rotate s.a 2 ^^^ rotate s.a 13 ^^^ rotate s.a 22
  let majority := (s.a &&& s.b) ^^^ (s.a &&& s.c) ^^^ (s.b &&& s.c)
  ⟨t₁ + (s₀ + majority), s.a, s.b, s.c, s.d + t₁, s.e, s.f, s.g⟩

/-- The last `count` of the sixty-four rounds. -/
def rounds (w : Array UInt32) : (count : Nat) → State → State
  | 0, s => s
  | count + 1, s =>
    let i := 63 - count
    rounds w count (round s (w.getD i 0) (constants.getD i 0))

/-- The sum of two states, word by word. -/
def State.add (s t : State) : State :=
  ⟨s.a + t.a, s.b + t.b, s.c + t.c, s.d + t.d, s.e + t.e, s.f + t.f, s.g + t.g, s.h + t.h⟩

/-- Mixes a block of sixteen words into a state. -/
def compress (s : State) (block : Array UInt32) : State :=
  s.add (rounds (extend 48 block) 64 s)

/-- The bytes of a state. -/
def State.bytes (s : State) : Bytes :=
  highBytes s.a ++ highBytes s.b ++ highBytes s.c ++ highBytes s.d ++
    highBytes s.e ++ highBytes s.f ++ highBytes s.g ++ highBytes s.h

/-- The state that a message leads to. -/
def after (start : State) (message : Bytes) : State :=
  (absorb compress 16 highWord (start, #[]) (message ++ padding 64 8 message.length ++
    (countBytes 8 (message.length * 8)).reverse)).1

/-- The digest of a message: 32 bytes. -/
def digest (message : Bytes) : Bytes :=
  (after initial message).bytes

/-- The digest of a message by SHA-224: 28 bytes. -/
def digest224 (message : Bytes) : Bytes :=
  (after initial224 message).bytes.take 28

/-- A digest has 32 bytes, whatever the message. -/
theorem length_digest (message : Bytes) : (digest message).length = 32 := by
  simp [digest, State.bytes, highBytes]

end SealedPage.Hash.Sha256
