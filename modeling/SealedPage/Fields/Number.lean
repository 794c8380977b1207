import SealedPage.Text.Digit

/-!
# Integers written as text in fields

An integer in a text field is written as in JSON, `strictInteger?`: an optional minus sign and
decimal digits without needless zeros. More generously, `integerOfText`, it may have margins and a
plus sign, zeros in front, a point with zeros behind it, and single underscores. Such a text is
first reduced to the plain form, `plainInteger?`, and then read by the strict rule.
-/

namespace SealedPage.Fields

/-- The most characters that an integer in plain form may have. -/
def maxIntegerLength : Nat := 4300

/-- A text of digits without the zeros in front, where underscores may stand among these zeros; the
digit `last` stands before the text. A text of zeros keeps its last character, and the zero before a
point stays. -/
def dropZerosBehind (last : Char) : List Char → Option (List Char)
  | [] => some [last]
  | c :: cs =>
    if c = '0' || c = '_' then dropZerosBehind c cs
    else if c.isDigit || c = '-' then some (c :: cs)
    else if c = '.' then some (last :: c :: cs)
    else none

/-- A text that begins with a digit without the zeros in front. -/
def dropLeadingZeros : List Char → Option (List Char)
  | [] => none
  | c :: cs =>
    if c = '0' then dropZerosBehind c cs
    else if c.isDigit then some (c :: cs)
    else none

/-- A text without its point, if nothing but zeros, and at least one, stands behind it. -/
def dropZeroFraction (s : List Char) : List Char :=
  match s.dropWhile (· != '.') with
  | _ :: z :: zs => if (z :: zs).all (· == '0') then s.takeWhile (· != '.') else s
  | _ => s

/-- Whether all underscores of a text stand alone and between two other characters; `before` says
that a character which is none stands directly before the text. -/
def underscoresSeparate (before : Bool) : List Char → Bool
  | [] => before
  | c :: cs => if c = '_' then before && underscoresSeparate false cs
    else underscoresSeparate true cs

/-- The plain form of a text without margins. -/
def plainInteger? (s : List Char) : Option (List Char) :=
  let unsigned :=
    match s with
    | '+' :: '-' :: _ => none
    | '+' :: cs => (dropLeadingZeros cs).map dropZeroFraction
    | '-' :: cs => (dropLeadingZeros cs).map fun ds => '-' :: dropZeroFraction ds
    | cs => (dropLeadingZeros cs).map dropZeroFraction
  unsigned.bind fun cs =>
    if underscoresSeparate false cs then some (cs.filter (· != '_')) else none

/-- The number that decimal digits without needless zeros write. -/
def strictNatural? : List Char → Option Nat
  | [] => none
  | ['0'] => some 0
  | '0' :: _ => none
  | ds => if ds.all Char.isDigit then some (ds.foldl (fun n c => 10 * n + (c.toNat - 48)) 0)
    else none

/-- The number that a text in plain form writes. -/
def strictInteger? : List Char → Option Int
  | '-' :: ds => (strictNatural? ds).map fun n => -(n : Int)
  | ds => (strictNatural? ds).map fun n => (n : Int)

/-- What a text says when an integer is read from it. -/
inductive IntegerText where
  | number (n : Int)
  /-- An integer in plain form, of more characters than may be read. -/
  | tooLong
  | malformed
  deriving DecidableEq, Repr

/-- Reads the integer that a text writes. -/
def integerOfText (s : String) : IntegerText :=
  let cs := s.toList
  match strictInteger? cs with
  | some n => if cs.length ≤ maxIntegerLength then .number n else .tooLong
  | none =>
    match plainInteger? (Text.trimMargins cs) with
    | some plain =>
      match strictInteger? plain with
      | some n => if plain.length ≤ maxIntegerLength then .number n else .malformed
      | none => .malformed
    | none => .malformed

/-- Whether a number fits into a signed word of 64 bits. -/
def fitsWord (n : Int) : Bool :=
  decide (-(1 <<< 63) ≤ n) && decide (n < 1 <<< 63)

end SealedPage.Fields
