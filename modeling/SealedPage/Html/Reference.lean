import SealedPage.Html.ReferenceTable

/-!
# Character references

References in text, `textReference`, and in attribute values, `decodeValue`. Both read a number from
128 to 159 as a byte of the Windows code page for Western Europe, and the number 0 as the
replacement character. They differ otherwise: an attribute value may hold names without a semicolon,
and leaves control characters out. A decimal number of more than `maxDigits` digits is refused.
-/

namespace SealedPage.Html

/-- Why markup is not read. -/
inductive ReadError where
  /-- A marked section of no known kind. -/
  | rejected
  /-- A decimal reference has more digits than are converted. -/
  | tooManyDigits (count : Nat)
  deriving DecidableEq, Repr

/-- The most digits of a decimal reference that are converted. -/
def maxDigits : Nat := 4300

/-- The wording of the limit on decimal numbers. -/
def digitLimitMessage (count : Nat) : String :=
  "Exceeds the limit (4300 digits) for integer string conversion: value has " ++ Nat.repr count ++
    " digits; use sys.set_int_max_str_digits() to increase the limit"

/-- Whether a character is a hexadecimal digit. -/
def isHexDigit (c : Char) : Bool :=
  c.isDigit || ('a' ≤ c && c ≤ 'f') || ('A' ≤ c && c ≤ 'F')

/-- The value of a hexadecimal digit. -/
def hexDigitValue (c : Char) : Nat :=
  if c.isDigit then c.toNat - 48
  else if 'a' ≤ c then c.toNat - 87
  else c.toNat - 55

/-- The number that decimal digits write, unless there are too many. -/
def decimalNumber (ds : List Char) : Except ReadError Nat :=
  if maxDigits < ds.length then .error (.tooManyDigits ds.length)
  else .ok (ds.foldl (fun n c => 10 * n + (c.toNat - 48)) 0)

/-- The number that hexadecimal digits write. -/
def hexNumber (ds : List Char) : Nat :=
  ds.foldl (fun n c => 16 * n + hexDigitValue c) 0

/-- The replacement character. -/
def replacementChar : Char := '\uFFFD'

/-- The character of a code point, or the replacement character if there is none. -/
def charOrReplacement (n : Nat) : Char :=
  if n.isValidChar then Char.ofNat n else replacementChar

/-- The characters of the Windows code page from 128 to 159; zero marks a place without one. -/
def windowsHigh : List Nat :=
  [0x20AC, 0, 0x201A, 0x0192, 0x201E, 0x2026, 0x2020, 0x2021, 0x02C6, 0x2030, 0x0160, 0x2039,
    0x0152, 0, 0x017D, 0, 0, 0x2018, 0x2019, 0x201C, 0x201D, 0x2022, 0x2013, 0x2014, 0x02DC,
    0x2122, 0x0161, 0x203A, 0x0153, 0, 0x017E, 0x0178]

/-- A number from 128 to 159 as a byte of the Windows code page; a place without a character keeps
the number. Other numbers stay as they are. -/
def fromWindows (n : Nat) : Nat :=
  if 0x80 ≤ n && n < 0xA0 then
    match windowsHigh[n - 0x80]? with
    | some m => if m = 0 then n else m
    | none => n
  else n

/-! ## References in text -/

/-- The character of a numeric reference in text; 0 writes no character. -/
def textChar (n : Nat) : Char :=
  if n = 0 then replacementChar else charOrReplacement (fromWindows n)

/-- What a named reference in text stands for; an unknown name loses its semicolon. -/
def textReference (name : List Char) : List Char :=
  match ReferenceTable.get? (String.ofList name) with
  | some r => r.text
  | none => '&' :: name

/-! ## References in attribute values -/

/-- Code points that a numeric reference in an attribute value does not write. -/
def isOmitted (n : Nat) : Bool :=
  (0x01 ≤ n && n ≤ 0x08) || n == 0x0B || (0x0E ≤ n && n ≤ 0x1F) || (0x7F ≤ n && n ≤ 0x9F) ||
  (0xFDD0 ≤ n && n ≤ 0xFDEF) || n % 0x10000 == 0xFFFE || n % 0x10000 == 0xFFFF

/-- The characters of a numeric reference in an attribute value. -/
def valueChars (n : Nat) : List Char :=
  if n = 0 then [replacementChar]
  else if n = 0x0D then ['\r']
  else if 0x80 ≤ n && n < 0xA0 then [Char.ofNat (fromWindows n)]
  else if !n.isValidChar then [replacementChar]
  else if isOmitted n then []
  else [Char.ofNat n]

/-- The longest name at the front of `name` that may stand without a semicolon, of at most `length`
and at least two characters, with what it stands for and the characters behind it. -/
def shortReference? (name : List Char) : (length : Nat) → Option (List Char × List Char)
  | 0 | 1 => none
  | length + 2 =>
    match ReferenceTable.get? (String.ofList (name.take (length + 2))) with
    | some ⟨text, true⟩ => some (text, name.drop (length + 2))
    | _ => shortReference? name (length + 1)

/-- What a named reference in an attribute value stands for. -/
def valueReference (name : List Char) (closed : Bool) : List Char :=
  let whole := match ReferenceTable.get? (String.ofList name) with
    | some r => if closed || r.short then some r.text else none
    | none => none
  match whole with
  | some text => text
  | none =>
    let behind := if closed then [';'] else []
    match shortReference? name (if closed then name.length else name.length - 1) with
    | some (text, rest) => text ++ rest ++ behind
    | none => '&' :: (name ++ behind)

/-- Whether a character may stand in the name of a reference in an attribute value. -/
def isValueNameChar (c : Char) : Bool :=
  c != '\t' && c != '\n' && c != '\x0C' && c != ' ' && c != '<' && c != '&' && c != '#' && c != ';'

/-- The reference at the front of a text, which begins behind an ampersand: what it stands for and
how many characters it takes. -/
def valueReference? (cs : List Char) : Except ReadError (Option (List Char × Nat)) :=
  match cs with
  | '#' :: x :: ds =>
    if x = 'x' || x = 'X' then
      match ds.takeWhile isHexDigit with
      | [] => .ok none
      | hs =>
        let closed := if (ds.drop hs.length).head? = some ';' then 1 else 0
        .ok (some (valueChars (hexNumber hs), 2 + hs.length + closed))
    else
      match (x :: ds).takeWhile Char.isDigit with
      | [] => .ok none
      | hs => do
        let n ← decimalNumber hs
        let closed := if ((x :: ds).drop hs.length).head? = some ';' then 1 else 0
        return some (valueChars n, 1 + hs.length + closed)
  | _ =>
    match (cs.take 32).takeWhile isValueNameChar with
    | [] => .ok none
    | name =>
      let closed := (cs.drop name.length).head? = some ';'
      .ok (some (valueReference name closed, name.length + if closed then 1 else 0))

/-- Replaces the references of an attribute value, after passing over its first `skip` characters;
`done` holds the result so far in reverse. -/
def decodeValueFrom (done : List Char) : (skip : Nat) → List Char → Except ReadError (List Char)
  | _, [] => .ok done.reverse
  | skip + 1, _ :: cs => decodeValueFrom done skip cs
  | 0, c :: cs =>
    if c = '&' then
      match valueReference? cs with
      | .error e => .error e
      | .ok none => decodeValueFrom (c :: done) 0 cs
      | .ok (some (text, length)) => decodeValueFrom (text.reverseAux done) length cs
    else decodeValueFrom (c :: done) 0 cs

/-- An attribute value with its references replaced. -/
def decodeValue (s : List Char) : Except ReadError (List Char) :=
  decodeValueFrom [] 0 s

end SealedPage.Html
