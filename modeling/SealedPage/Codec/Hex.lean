/-!
# Hexadecimal

Bytes and numbers as lower-case hexadecimal digits, `encode` and `ofNat`, and bytes from digits of
either case, `decode?`.
-/

namespace SealedPage.Codec.Hex

/-- The digit of a value below sixteen. -/
def digit (n : Nat) : Char :=
  Nat.digitChar n

/-- The value of a hexadecimal digit of either case. -/
def value? (c : Char) : Option Nat :=
  if '0' ≤ c && c ≤ '9' then some (c.toNat - '0'.toNat)
  else if 'a' ≤ c && c ≤ 'f' then some (c.toNat - 'a'.toNat + 10)
  else if 'A' ≤ c && c ≤ 'F' then some (c.toNat - 'A'.toNat + 10)
  else none

/-- Two digits for each byte. -/
def encode (bytes : List UInt8) : List Char :=
  bytes.flatMap fun b => [digit (b.toNat / 16), digit (b.toNat % 16)]

/-- Reads digits two by two, with the bytes read so far in reverse. -/
def decodeFrom (done : List UInt8) : List Char → Option (List UInt8)
  | [] => some done.reverse
  | [_] => none
  | a :: b :: cs =>
    match value? a, value? b with
    | some x, some y => decodeFrom ((x * 16 + y).toUInt8 :: done) cs
    | _, _ => none

/-- The bytes that pairs of digits spell. -/
def decode? (s : List Char) : Option (List UInt8) :=
  decodeFrom [] s

/-- A number without leading zeros. -/
def ofNat (n : Nat) : String :=
  String.ofList (Nat.toDigits 16 n)

end SealedPage.Codec.Hex
