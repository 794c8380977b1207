import SealedPage.Hash.Scrypt
import SealedPage.Text.Utf8

/-!
# Keys from passphrases

The older ways to derive the key of a cipher from a passphrase and a salt: that of encrypted blocks,
`blockKey`, the first one of PKCS #5, `pbkdf1`, and that of PKCS #12, `pkcs12Key?`.
-/

namespace SealedPage.Key

open Hash (Algorithm)

/-! ## Blocks -/

/-- The length of the salt of a block, which is the front of its vector. -/
def saltLength : Nat := 8

/-- At least `length` bytes derived from a passphrase and a salt, given the last digest; `fuel`
bounds the number of digests. -/
def stretchKey (passphrase salt last : Bytes) : (fuel length : Nat) → Bytes
  | 0, _ => []
  | fuel + 1, length =>
    if length = 0 then []
    else
      let next := Hash.Md5.digest (last ++ passphrase ++ salt)
      next ++ stretchKey passphrase salt next fuel (length - next.length)

/-- The key of the given length derived from a passphrase and a salt. -/
def blockKey (passphrase salt : Bytes) (length : Nat) : Bytes :=
  (stretchKey passphrase salt [] length length).take length

/-! ## PKCS #5 -/

/-- A key of the given length, at most that of a digest. -/
def pbkdf1 (h : Algorithm) (passphrase salt : Bytes) (rounds length : Nat) : Bytes :=
  (h.iterate (passphrase ++ salt) rounds).take length

/-! ## PKCS #12 -/

/-- What a derived text is for. -/
inductive Purpose where
  | key
  | vector
  deriving DecidableEq, Repr

/-- The byte that stands for a purpose. -/
def Purpose.byte : Purpose → UInt8
  | key => 1
  | vector => 2

/-- A number below 65536 in two bytes, the highest first. -/
def twoBytes (n : Nat) : Bytes :=
  [(n / 256).toUInt8, n.toUInt8]

/-- A character in units of two bytes each; two units stand for one beyond the first 65536. -/
def unitsOfChar (c : Char) : Bytes :=
  let n := c.toNat
  if n < 0x10000 then twoBytes n
  else twoBytes (0xD800 + (n - 0x10000) / 0x400) ++ twoBytes (0xDC00 + (n - 0x10000) % 0x400)

/-- Bytes over and over again, up to the given length. -/
def repeatTo (length : Nat) (s : Bytes) : Bytes :=
  ((List.replicate (length / s.length + 1) s).flatten).take length

/-- Bytes over and over again, up to the first whole block behind them. -/
def fillBlocks (blockLength : Nat) (s : Bytes) : Bytes :=
  repeatTo ((s.length + blockLength - 1) / blockLength * blockLength) s

/-- The sum of two numbers of equal length and one more, without what exceeds this length. -/
def addBlocks (x y : Bytes) : Bytes :=
  let step := fun (b c : UInt8) (state : Nat × Bytes) =>
    let sum := b.toNat + c.toNat + state.1
    (sum / 256, sum.toUInt8 :: state.2)
  ((List.zip x y).foldr (fun (b, c) state => step b c state) (1, [])).2

/-- The blocks of a text, each with `block` and one added. -/
def addToAll (block : Bytes) : (fuel : Nat) → Bytes → Bytes
  | 0, s => s
  | fuel + 1, s =>
    if s.isEmpty then []
    else addBlocks (s.take block.length) block ++ addToAll block fuel (s.drop block.length)

/-- At least `length` bytes from a purpose and a text of salt and passphrase; `fuel` bounds the
number of digests. -/
def pkcs12From (h : Algorithm) (purpose : Purpose) (rounds : Nat) :
    (fuel length : Nat) → (text : Bytes) → Bytes
  | 0, _, _ => []
  | fuel + 1, length, text =>
    if length = 0 then []
    else
      let next := h.iterate (List.replicate h.blockLength purpose.byte ++ text) rounds
      next ++ pkcs12From h purpose rounds fuel (length - next.length)
        (addToAll (repeatTo h.blockLength next) text.length text)

/-- A key or a vector of the given length, if the passphrase is a text. -/
def pkcs12Key? (h : Algorithm) (passphrase salt : Bytes) (purpose : Purpose)
    (rounds length : Nat) : Option Bytes :=
  match Text.Utf8.decode passphrase with
  | .error _ => none
  | .ok cs =>
    let secret := cs.flatMap unitsOfChar ++ twoBytes 0
    let text := fillBlocks h.blockLength salt ++ fillBlocks h.blockLength secret
    some ((pkcs12From h purpose rounds length length text).take length)

end SealedPage.Key
