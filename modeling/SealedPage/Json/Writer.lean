import SealedPage.Json.Value

/-!
# Writing JSON

Values on one line, members in their order, with or without a space after each comma and colon,
`Value.write` and `Value.writeCompact`, and characters outside ASCII as they are. Line ends and
other control characters never occur in the text.
-/

namespace SealedPage.Json

/-- A hexadecimal digit. -/
def hexDigit (n : Nat) : Char :=
  Nat.digitChar (n % 16)

/-- How a character stands in a string: quotes, backslashes and control characters are escaped. -/
def escapeChar (c : Char) : List Char :=
  if c = '"' then ['\\', '"']
  else if c = '\\' then ['\\', '\\']
  else if c = '\n' then ['\\', 'n']
  else if c = '\r' then ['\\', 'r']
  else if c = '\t' then ['\\', 't']
  else if c = '\x08' then ['\\', 'b']
  else if c = '\x0C' then ['\\', 'f']
  else if c.toNat < 0x20 then ['\\', 'u', '0', '0', hexDigit (c.toNat / 16), hexDigit c.toNat]
  else [c]

/-- A string in quotes. -/
def quote (s : String) : String :=
  String.ofList ('"' :: (s.toList.flatMap escapeChar ++ ['"']))

/-- The least mantissa: trailing zeros move into the exponent. -/
def stripZeros : (fuel : Nat) → Nat → Int → Nat × Int
  | 0, m, e => (m, e)
  | fuel + 1, m, e => if m % 10 = 0 && m ≠ 0 then stripZeros fuel (m / 10) (e + 1) else (m, e)

/-- The digits of `m * 10 ^ e`, positional from `1e-4` up to below `1e16`, otherwise with an
exponent of at least two digits. -/
def decimalDigits (m : Nat) (e : Int) : List Char :=
  let (m, e) := stripZeros (Nat.toDigits 10 m).length m e
  let ds := Nat.toDigits 10 m
  let point : Int := ds.length + e
  if -4 < point && point ≤ 16 then
    if point ≤ 0 then '0' :: '.' :: (List.replicate (-point).toNat '0' ++ ds)
    else
      let whole := ds.take point.toNat ++ List.replicate (point.toNat - ds.length) '0'
      let places := ds.drop point.toNat
      whole ++ '.' :: (if places.isEmpty then ['0'] else places)
  else
    let exponent := point - 1
    let power := Nat.toDigits 10 exponent.natAbs
    let power := if power.length < 2 then '0' :: power else power
    let lead := ds.take 1 ++ (if ds.length ≤ 1 then [] else '.' :: ds.drop 1)
    lead ++ 'e' :: (if exponent < 0 then '-' else '+') :: power

/-- A positive number or zero, with the fewest digits. -/
def Double.text (x : Double) : List Char :=
  if x.significand = 0 then ['0', '.', '0'] else decimalDigits x.shortest.1 x.shortest.2

/-- A number that is no integer literal, in double precision. -/
def Decimal.text : Decimal → String
  | .notANumber => "NaN"
  | .infinite negative => if negative then "-Infinity" else "Infinity"
  | .finite negative m e =>
    match Double.ofDecimal? m e with
    | none => if negative then "-Infinity" else "Infinity"
    | some x => String.ofList (if negative then '-' :: x.text else x.text)

/-- An integer. -/
def intText (n : Int) : String :=
  if n < 0 then "-" ++ Nat.repr n.natAbs else Nat.repr n.natAbs

mutual

/-- Writes a value behind the text `out`, with `gap` behind each comma and colon. -/
def Value.writeTo (gap out : String) : Value → String
  | .null => out ++ "null"
  | .bool b => out ++ (if b then "true" else "false")
  | .int n => out ++ intText n
  | .float x => out ++ x.text
  | .str s => out ++ quote s
  | .arr items => writeItems gap (out ++ "[") true items ++ "]"
  | .obj members => writeMembers gap (out ++ "\x7b") true members ++ "\x7d"

/-- Writes the items of an array; `first` says that none stands before them. -/
def writeItems (gap out : String) (first : Bool) : List Value → String
  | [] => out
  | v :: vs =>
    writeItems gap (Value.writeTo gap (if first then out else out ++ "," ++ gap) v) false vs

/-- Writes the members of an object; `first` says that none stands before them. -/
def writeMembers (gap out : String) (first : Bool) : List (String × Value) → String
  | [] => out
  | (k, v) :: ms =>
    let out := if first then out else out ++ "," ++ gap
    writeMembers gap (Value.writeTo gap (out ++ quote k ++ ":" ++ gap) v) false ms

end

/-- The text of a value. -/
def Value.write (v : Value) : String :=
  v.writeTo " " ""

/-- The text of a value without spaces. -/
def Value.writeCompact (v : Value) : String :=
  v.writeTo "" ""

end SealedPage.Json
