import SealedPage.Text.Blank

/-!
# Decimal digits

The decimal digits of all scripts, `digitValue?`, and the integers that texts write with them,
`readInteger`.
-/

namespace SealedPage.Text

/-- The zeros of all scripts; the other nine digits follow each one. -/
def digitZeros : Array Nat :=
  #[
    0x30, 0x660, 0x6F0, 0x7C0, 0x966, 0x9E6, 0xA66, 0xAE6, 0xB66, 0xBE6, 0xC66, 0xCE6, 0xD66,
    0xDE6, 0xE50, 0xED0, 0xF20, 0x1040, 0x1090, 0x17E0, 0x1810, 0x1946, 0x19D0, 0x1A80, 0x1A90,
    0x1B50, 0x1BB0, 0x1C40, 0x1C50, 0xA620, 0xA8D0, 0xA900, 0xA9D0, 0xA9F0, 0xAA50, 0xABF0,
    0xFF10, 0x104A0, 0x10D30, 0x11066, 0x110F0, 0x11136, 0x111D0, 0x112F0, 0x11450, 0x114D0,
    0x11650, 0x116C0, 0x11730, 0x118E0, 0x11950, 0x11C50, 0x11D50, 0x11DA0, 0x16A60, 0x16AC0,
    0x16B50, 0x1D7CE, 0x1D7D8, 0x1D7E2, 0x1D7EC, 0x1D7F6, 0x1E140, 0x1E2F0, 0x1E950, 0x1FBF0
  ]

/-- The value of a decimal digit of any script. -/
def digitValue? (c : Char) : Option Nat :=
  (digitZeros.find? fun z => z ≤ c.toNat && c.toNat ≤ z + 9).map fun z => c.toNat - z

/-- Whether a character may stand around a number: a blank that is no information separator. -/
def isMargin (c : Char) : Bool :=
  isBlank c && !(0x1C ≤ c.toNat && c.toNat ≤ 0x1F)

/-- A number without its margins. -/
def trimMargins (s : List Char) : List Char :=
  ((s.dropWhile isMargin).reverse.dropWhile isMargin).reverse

/-- Splits off the digits at the front of a text, with single underscores between them; `between`
says that an underscore or the end of the digits may follow. The digits read so far stand in
reverse. -/
def splitDigits (done : List Nat) (between : Bool) : List Char → Option (List Nat × List Char)
  | [] => if between then some (done.reverse, []) else none
  | c :: cs =>
    if c = '_' then if between then splitDigits done false cs else none
    else
      match digitValue? c with
      | some d => splitDigits (d :: done) true cs
      | none => if between then some (done.reverse, c :: cs) else none

/-- The number that decimal digits write. -/
def digitsNumber (ds : List Nat) : Nat :=
  ds.foldl (fun n d => 10 * n + d) 0

/-- The sign at the front of a text, and the rest. -/
def splitSign : List Char → Bool × List Char
  | '-' :: cs => (true, cs)
  | '+' :: cs => (false, cs)
  | cs => (false, cs)

/-- An integer from its sign and digits. -/
def signedNumber (negative : Bool) (ds : List Nat) : Int :=
  if negative then -(digitsNumber ds : Int) else digitsNumber ds

/-- What a text says when an integer is read from it. -/
inductive IntegerText where
  | number (n : Int)
  /-- It begins with an integer of more digits than may be read, whatever follows. -/
  | tooLong (digits : Nat)
  | malformed
  deriving DecidableEq, Repr

/-- Reads the integer that a text writes with at most `limit` digits and margins around them. -/
def readInteger (limit : Nat) (s : List Char) : IntegerText :=
  let (negative, cs) := splitSign (trimMargins s)
  match splitDigits [] false cs with
  | none => .malformed
  | some (ds, rest) =>
    if limit < ds.length then .tooLong ds.length
    else if rest.isEmpty then .number (signedNumber negative ds)
    else .malformed

end SealedPage.Text
