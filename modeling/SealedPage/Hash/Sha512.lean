import SealedPage.Hash.Block

/-!
# SHA-512

The hash function of FIPS 180-4 on words of 64 bits: each block of sixteen words is mixed into a
state of eight words. With another state to begin with and a part of the last state as the digest it
is SHA-384.
-/

namespace SealedPage.Hash.Sha512

/-- The chaining state. -/
structure State where
  a : UInt64
  b : UInt64
  c : UInt64
  d : UInt64
  e : UInt64
  f : UInt64
  g : UInt64
  h : UInt64
  deriving DecidableEq, Repr

/-- The state before the first block. -/
def initial : State :=
  ⟨0x6A09E667F3BCC908, 0xBB67AE8584CAA73B, 0x3C6EF372FE94F82B, 0xA54FF53A5F1D36F1,
    0x510E527FADE682D1, 0x9B05688C2B3E6C1F, 0x1F83D9ABFB41BD6B, 0x5BE0CD19137E2179⟩

/-- The state of SHA-384 before the first block. -/
def initial384 : State :=
  ⟨0xCBBB9D5DC1059ED8, 0x629A292A367CD507, 0x9159015A3070DD17, 0x152FECD8F70E5939,
    0x67332667FFC00B31, 0x8EB44A8768581511, 0xDB0C2E0D64F98FA7, 0x47B5481DBEFA4FA4⟩

/-- The constants of the rounds. -/
def constants : Array UInt64 :=
  #[0x428A2F98D728AE22, 0x7137449123EF65CD, 0xB5C0FBCFEC4D3B2F, 0xE9B5DBA58189DBBC,
    0x3956C25BF348B538, 0x59F111F1B605D019, 0x923F82A4AF194F9B, 0xAB1C5ED5DA6D8118,
    0xD807AA98A3030242, 0x12835B0145706FBE, 0x243185BE4EE4B28C, 0x550C7DC3D5FFB4E2,
    0x72BE5D74F27B896F, 0x80DEB1FE3B1696B1, 0x9BDC06A725C71235, 0xC19BF174CF692694,
    0xE49B69C19EF14AD2, 0xEFBE4786384F25E3, 0x0FC19DC68B8CD5B5, 0x240CA1CC77AC9C65,
    0x2DE92C6F592B0275, 0x4A7484AA6EA6E483, 0x5CB0A9DCBD41FBD4, 0x76F988DA831153B5,
    0x983E5152EE66DFAB, 0xA831C66D2DB43210, 0xB00327C898FB213F, 0xBF597FC7BEEF0EE4,
    0xC6E00BF33DA88FC2, 0xD5A79147930AA725, 0x06CA6351E003826F, 0x142929670A0E6E70,
    0x27B70A8546D22FFC, 0x2E1B21385C26C926, 0x4D2C6DFC5AC42AED, 0x53380D139D95B3DF,
    0x650A73548BAF63DE, 0x766A0ABB3C77B2A8, 0x81C2C92E47EDAEE6, 0x92722C851482353B,
    0xA2BFE8A14CF10364, 0xA81A664BBC423001, 0xC24B8B70D0F89791, 0xC76C51A30654BE30,
    0xD192E819D6EF5218, 0xD69906245565A910, 0xF40E35855771202A, 0x106AA07032BBD1B8,
    0x19A4C116B8D2D0C8, 0x1E376C085141AB53, 0x2748774CDF8EEB99, 0x34B0BCB5E19B48A8,
    0x391C0CB3C5C95A63, 0x4ED8AA4AE3418ACB, 0x5B9CCA4F7763E373, 0x682E6FF3D6B2B8A3,
    0x748F82EE5DEFB2FC, 0x78A5636F43172F60, 0x84C87814A1F0AB72, 0x8CC702081A6439EC,
    0x90BEFFFA23631E28, 0xA4506CEBDE82BDE9, 0xBEF9A3F7B2C67915, 0xC67178F2E372532B,
    0xCA273ECEEA26619C, 0xD186B8C721C0C207, 0xEADA7DD6CDE0EB1E, 0xF57D4F7FEE6ED178,
    0x06F067AA72176FBA, 0x0A637DC5A2C898A6, 0x113F9804BEF90DAE, 0x1B710B35131C471B,
    0x28DB77F523047D84, 0x32CAAB7B40C72493, 0x3C9EBE0A15C9BEBC, 0x431D67C49C100D4C,
    0x4CC5D4BECB3E42B6, 0x597F299CFC657E2A, 0x5FCB6FAB3AD6FAEC, 0x6C44198C4A475817]

/-- A word rotated to the right. -/
def rotate (x n : UInt64) : UInt64 :=
  (x >>> n) ||| (x <<< (64 - n))

/-- The word of the schedule that follows the given ones. -/
def nextWord (w : Array UInt64) : UInt64 :=
  let i := w.size
  let x := w.getD (i - 15) 0
  let y := w.getD (i - 2) 0
  let s₀ := rotate x 1 ^^^ rotate x 8 ^^^ (x >>> 7)
  let s₁ := rotate y 19 ^^^ rotate y 61 ^^^ (y >>> 6)
  w.getD (i - 16) 0 + s₀ + w.getD (i - 7) 0 + s₁

/-- Adds the given number of words to a schedule. -/
def extend : (count : Nat) → Array UInt64 → Array UInt64
  | 0, w => w
  | count + 1, w => extend count (w.push (nextWord w))

/-- One round, with a word of the schedule and the constant of the round. -/
def round (s : State) (w k : UInt64) : State :=
  let s₁ := rotate s.e 14 ^^^ rotate s.e 18 ^^^ rotate s.e 41
  let choice := (s.e &&& s.f) ^^^ ((s.e ^^^ 0xFFFFFFFFFFFFFFFF) &&& s.g)
  let t₁ := s.h + s₁ + choice + k + w
  let s₀ := rotate s.a 28 ^^^ rotate s.a 34 ^^^ rotate s.a 39
  let majority := (s.a &&& s.b) ^^^ (s.a &&& s.c) ^^^ (s.b &&& s.c)
  ⟨t₁ + (s₀ + majority), s.a, s.b, s.c, s.d + t₁, s.e, s.f, s.g⟩

/-- The last `count` of the eighty rounds. -/
def rounds (w : Array UInt64) : (count : Nat) → State → State
  | 0, s => s
  | count + 1, s =>
    let i := 79 - count
    rounds w count (round s (w.getD i 0) (constants.getD i 0))

/-- The sum of two states, word by word. -/
def State.add (s t : State) : State :=
  ⟨s.a + t.a, s.b + t.b, s.c + t.c, s.d + t.d, s.e + t.e, s.f + t.f, s.g + t.g, s.h + t.h⟩

/-- The words of a block, each from two halves. -/
def joinHalves (block : Array UInt32) : Array UInt64 :=
  Array.ofFn fun i : Fin 16 =>
    ((block.getD (2 * i.val) 0).toUInt64 <<< 32) ||| (block.getD (2 * i.val + 1) 0).toUInt64

/-- Mixes a block into a state; its sixteen words come in halves. -/
def compress (s : State) (block : Array UInt32) : State :=
  s.add (rounds (extend 64 (joinHalves block)) 80 s)

/-- The bytes of a word, the highest first. -/
def wordBytes (w : UInt64) : Bytes :=
  highBytes (w >>> 32).toUInt32 ++ highBytes w.toUInt32

/-- The bytes of a state. -/
def State.bytes (s : State) : Bytes :=
  wordBytes s.a ++ wordBytes s.b ++ wordBytes s.c ++ wordBytes s.d ++
    wordBytes s.e ++ wordBytes s.f ++ wordBytes s.g ++ wordBytes s.h

/-- The state that a message leads to. -/
def after (start : State) (message : Bytes) : State :=
  (absorb compress 32 highWord (start, #[]) (message ++ padding 128 16 message.length ++
    (countBytes 16 (message.length * 8)).reverse)).1

/-- The digest of a message: 64 bytes. -/
def digest (message : Bytes) : Bytes :=
  (after initial message).bytes

/-- The digest of a message by SHA-384: 48 bytes. -/
def digest384 (message : Bytes) : Bytes :=
  (after initial384 message).bytes.take 48

end SealedPage.Hash.Sha512
