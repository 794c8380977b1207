/-!
# Base64

The padded encoding of RFC 4648, section 4, `encode`, and a strict reader, `decode`. The reader
takes characters one by one, `Reader.push`; padding that completes a group ends the text, and what
may stand elsewhere is settled by the position in the current group of four. It refuses what belongs
to no group, but not padding behind a complete one.
-/

namespace SealedPage.Codec.Base64

/-- The character of a value below sixty-four. -/
def digit (n : Nat) : Char :=
  if n < 26 then Char.ofNat ('A'.toNat + n)
  else if n < 52 then Char.ofNat ('a'.toNat + (n - 26))
  else if n < 62 then Char.ofNat ('0'.toNat + (n - 52))
  else if n = 62 then '+' else '/'

/-- The value of a character of the alphabet. -/
def value? (c : Char) : Option Nat :=
  if 'A' ≤ c && c ≤ 'Z' then some (c.toNat - 'A'.toNat)
  else if 'a' ≤ c && c ≤ 'z' then some (c.toNat - 'a'.toNat + 26)
  else if '0' ≤ c && c ≤ '9' then some (c.toNat - '0'.toNat + 52)
  else if c = '+' then some 62
  else if c = '/' then some 63
  else none

/-- The four characters of three bytes. -/
def group (a b c : UInt8) : List Char :=
  let n := a.toNat * 0x10000 + b.toNat * 0x100 + c.toNat
  [digit (n / 0x40000), digit (n / 0x1000 % 0x40), digit (n / 0x40 % 0x40), digit (n % 0x40)]

/-- The groups of the bytes in front of those already written, which stand in reverse. -/
def encodeFrom (done : List Char) : List UInt8 → List Char
  | [] => done.reverse
  | [a] => done.reverse ++ ((group a 0 0).take 2 ++ ['=', '='])
  | [a, b] => done.reverse ++ ((group a b 0).take 3 ++ ['='])
  | a :: b :: c :: bytes => encodeFrom ((group a b c).reverse ++ done) bytes

/-- Groups of four characters for three bytes, the last one padded. -/
def encode (bytes : List UInt8) : List Char :=
  encodeFrom [] bytes

/-- Why a text is refused. -/
inductive DecodeError where
  /-- A character outside ASCII occurs. -/
  | notAscii
  /-- The text begins with padding. -/
  | leadingPadding
  /-- A character is outside the alphabet. -/
  | foreignCharacter
  /-- Data follows padding inside an incomplete group. -/
  | discontinuousPadding
  /-- Something follows the padding that completed a group. -/
  | excessData
  /-- The last group has one character only, with the given number of characters in all. -/
  | lonelyCharacter (count : Nat)
  /-- The last group is incomplete. -/
  | incorrectPadding
  deriving DecidableEq, Repr

/-- The wording of a refusal. -/
def DecodeError.message : DecodeError → String
  | .notAscii => "string argument should contain only ASCII characters"
  | .leadingPadding => "Leading padding not allowed"
  | .foreignCharacter => "Only base64 data is allowed"
  | .discontinuousPadding => "Discontinuous padding not allowed"
  | .excessData => "Excess data after padding"
  | .lonelyCharacter count =>
    "Invalid base64-encoded string: number of data characters (" ++ Nat.repr count ++
      ") cannot be 1 more than a multiple of 4"
  | .incorrectPadding => "Incorrect padding"

/-- Where the reader stands: the data characters of the current group, the padding counted in it,
whether padding has been met, the bits not yet written, and the bytes written, in reverse. -/
structure Reader where
  quad : Nat := 0
  pads : Nat := 0
  padded : Bool := false
  bits : Nat := 0
  done : List UInt8 := []

/-- Takes one data character of the given value. -/
def Reader.push (r : Reader) (v : Nat) : Reader :=
  match r.quad with
  | 0 => { r with quad := 1, pads := 0, bits := v }
  | 1 =>
    { r with
      quad := 2, pads := 0, bits := v % 16, done := (r.bits * 4 + v / 16).toUInt8 :: r.done }
  | 2 =>
    { r with
      quad := 3, pads := 0, bits := v % 4, done := (r.bits * 16 + v / 4).toUInt8 :: r.done }
  | _ => { r with quad := 0, pads := 0, bits := 0, done := (r.bits * 64 + v).toUInt8 :: r.done }

/-- What the reader answers when the text ends. -/
def Reader.finish (r : Reader) : Except DecodeError (List UInt8) :=
  match r.quad with
  | 0 => .ok r.done.reverse
  | 1 => .error (.lonelyCharacter (r.done.length / 3 * 4 + 1))
  | _ => .error .incorrectPadding

/-- Reads the characters one by one. Padding counts only from the third place of a group on. -/
def Reader.read (r : Reader) : List Char → Except DecodeError (List UInt8)
  | [] => r.finish
  | c :: cs =>
    if c = '=' then
      if 2 ≤ r.quad then
        if 4 ≤ r.quad + (r.pads + 1) then
          if cs.isEmpty then .ok r.done.reverse else .error .excessData
        else Reader.read { r with pads := r.pads + 1, padded := true } cs
      else Reader.read { r with padded := true } cs
    else match value? c with
    | none => .error .foreignCharacter
    | some v =>
      if r.padded then .error .discontinuousPadding else Reader.read (r.push v) cs

/-- Strict decoding: no character is skipped, and padding is demanded. -/
def decode (s : List Char) : Except DecodeError (List UInt8) :=
  if s.any fun c => 0x80 ≤ c.toNat then .error .notAscii
  else if s.head? = some '=' then .error .leadingPadding
  else Reader.read {} s

end SealedPage.Codec.Base64
