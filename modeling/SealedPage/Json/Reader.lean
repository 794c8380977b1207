import SealedPage.Json.Value

/-!
# Reading JSON

A strict reader of JSON texts, `ofString`, that also takes the literals `NaN`, `Infinity` and
`-Infinity`. An object that names a member twice keeps the last value at the place of the first.
What is no JSON, an integer with too many digits and values too deep inside each other are told
apart, `ReadError`.
-/

namespace SealedPage.Json

/-- The two kinds of values that hold others. -/
inductive Container where
  | array
  | object
  deriving DecidableEq, Repr

/-- Why a text is not read. -/
inductive ReadError where
  /-- The text is no JSON. -/
  | malformed
  /-- An integer has more decimal digits than are converted. -/
  | tooManyDigits (count : Nat)
  /-- A container stands inside too many others. -/
  | tooDeep (container : Container)
  deriving DecidableEq, Repr

/-- How many containers may stand inside each other. -/
def maxDepth : Nat := 990

/-- The wording of the limit on containers inside each other. -/
def depthMessage (container : Container) : String :=
  let kind := match container with
    | .array => "array"
    | .object => "object"
  "maximum recursion depth exceeded while decoding a JSON " ++ kind ++ " from a unicode string"

/-- The white space of JSON. -/
def isSpace (c : Char) : Bool :=
  c == ' ' || c == '\t' || c == '\n' || c == '\r'

/-- The text from its first character that is not white space. -/
def skipSpace (s : List Char) : List Char :=
  s.dropWhile isSpace

/-- The value of a hexadecimal digit. -/
def hexValue? (c : Char) : Option Nat :=
  if '0' ≤ c && c ≤ '9' then some (c.toNat - 48)
  else if 'a' ≤ c && c ≤ 'f' then some (c.toNat - 87)
  else if 'A' ≤ c && c ≤ 'F' then some (c.toNat - 55)
  else none

/-- The code unit written by four hexadecimal digits. -/
def codeUnit? : List Char → Option (Nat × List Char)
  | a :: b :: c :: d :: cs =>
    match hexValue? a, hexValue? b, hexValue? c, hexValue? d with
    | some a, some b, some c, some d => some (a * 4096 + b * 256 + c * 16 + d, cs)
    | _, _, _, _ => none
  | _ => none

/-- The character of a code unit; half of a surrogate pair alone stands for the replacement
character. -/
def unitChar (n : Nat) : Char :=
  if n.isValidChar then Char.ofNat n else '\uFFFD'

/-- The character that the escape after a backslash and `u` stands for. -/
def unicodeEscape? (s : List Char) : Option (Char × List Char) :=
  match codeUnit? s with
  | none => none
  | some (hi, rest) =>
    if 0xD800 ≤ hi && hi < 0xDC00 then
      match rest with
      | '\\' :: 'u' :: rest' =>
        match codeUnit? rest' with
        | none => none
        | some (lo, rest'') =>
          if 0xDC00 ≤ lo && lo < 0xE000 then
            some (Char.ofNat (0x10000 + (hi - 0xD800) * 0x400 + (lo - 0xDC00)), rest'')
          else some ('\uFFFD', rest)
      | _ => some ('\uFFFD', rest)
    else some (unitChar hi, rest)

/-- The character that a letter after a backslash stands for. -/
def simpleEscape? : Char → Option Char
  | '"' => some '"'
  | '\\' => some '\\'
  | '/' => some '/'
  | 'b' => some '\x08'
  | 'f' => some '\x0C'
  | 'n' => some '\n'
  | 'r' => some '\r'
  | 't' => some '\t'
  | _ => none

/-- Reads the rest of a string after its opening quote. Every round takes at least one character,
so any `fuel` from the length of the text on will do. -/
def stringFrom (done : List Char) : (fuel : Nat) → List Char → Option (String × List Char)
  | 0, _ => none
  | _, [] => none
  | fuel + 1, c :: cs =>
    if c = '"' then some (String.ofList done.reverse, cs)
    else if c = '\\' then
      match cs with
      | 'u' :: cs =>
        match unicodeEscape? cs with
        | some (x, rest) => stringFrom (x :: done) fuel rest
        | none => none
      | e :: cs =>
        match simpleEscape? e with
        | some x => stringFrom (x :: done) fuel cs
        | none => none
      | [] => none
    else if c.toNat < 0x20 then none
    else stringFrom (c :: done) fuel cs

/-- The digits at the front of a text, and the rest. -/
def digits (s : List Char) : List Char × List Char :=
  (s.takeWhile Char.isDigit, s.dropWhile Char.isDigit)

/-- The number that decimal digits write. -/
def digitsValue (ds : List Char) : Nat :=
  ds.foldl (fun n c => 10 * n + (c.toNat - 48)) 0

/-- The digits before the fraction: a single zero, or digits that begin with no zero. -/
def wholePart? (s : List Char) : Option (List Char × List Char) :=
  match s with
  | '0' :: cs => some (['0'], cs)
  | c :: _ => if c.isDigit then some (digits s) else none
  | [] => none

/-- The digits after a point, if there is a point with digits. -/
def fractionPart? (s : List Char) : Option (List Char × List Char) :=
  match s with
  | '.' :: cs => if (digits cs).1.isEmpty then none else some (digits cs)
  | _ => none

/-- The exponent, if a mark with digits stands here. -/
def exponentPart? (s : List Char) : Option (Int × List Char) :=
  match s with
  | c :: cs =>
    if c = 'e' || c = 'E' then
      let (negative, cs) := match cs with
        | '-' :: cs => (true, cs)
        | '+' :: cs => (false, cs)
        | cs => (false, cs)
      let (ds, rest) := digits cs
      if ds.isEmpty then none
      else some (if negative then -(digitsValue ds : Int) else digitsValue ds, rest)
    else none
  | [] => none

/-- Reads a number at the front of a text. -/
def number (s : List Char) : Except ReadError (Value × List Char) :=
  let (negative, unsigned) := match s with
    | '-' :: cs => (true, cs)
    | cs => (false, cs)
  match wholePart? unsigned with
  | none => .error .malformed
  | some (whole, rest) =>
    let fraction := fractionPart? rest
    let rest := (fraction.map (·.2)).getD rest
    let exponent := exponentPart? rest
    let rest := (exponent.map (·.2)).getD rest
    match fraction, exponent with
    | none, none =>
      if maxDigits < whole.length then .error (.tooManyDigits whole.length)
      else
        let n : Int := digitsValue whole
        .ok (.int (if negative then -n else n), rest)
    | _, _ =>
      let places := (fraction.map (·.1)).getD []
      let e := (exponent.map (·.1)).getD 0 - (places.length : Int)
      .ok (.float (.finite negative (digitsValue (whole ++ places)) e), rest)

/-- The rest of a text after the given word, if it begins with it. -/
def literal? (word : List Char) (s : List Char) : Option (List Char) :=
  if word.isPrefixOf s then some (s.drop word.length) else none

/-- Reads a value that is neither string, array nor object. -/
def scalar (s : List Char) : Except ReadError (Value × List Char) :=
  match s with
  | 'n' :: 'u' :: 'l' :: 'l' :: rest => .ok (.null, rest)
  | 't' :: 'r' :: 'u' :: 'e' :: rest => .ok (.bool true, rest)
  | 'f' :: 'a' :: 'l' :: 's' :: 'e' :: rest => .ok (.bool false, rest)
  | 'N' :: 'a' :: 'N' :: rest => .ok (.float .notANumber, rest)
  | 'I' :: _ =>
    match literal? "Infinity".toList s with
    | some rest => .ok (.float (.infinite false), rest)
    | none => .error .malformed
  | '-' :: 'I' :: _ =>
    match literal? "-Infinity".toList s with
    | some rest => .ok (.float (.infinite true), rest)
    | none => .error .malformed
  | _ => number s

mutual

/-- Reads a value at the front of a text; `room` more containers may stand inside each other. Every
round takes at least one character, so any `fuel` above the length of the text will do. -/
def value : (fuel room : Nat) → List Char → Except ReadError (Value × List Char)
  | 0, _, _ => .error .malformed
  | fuel + 1, room, s =>
    match s with
    | '"' :: cs =>
      match stringFrom [] fuel cs with
      | some (x, rest) => .ok (.str x, rest)
      | none => .error .malformed
    | '[' :: cs =>
      match room with
      | 0 => .error (.tooDeep .array)
      | room + 1 =>
        match skipSpace cs with
        | ']' :: rest => .ok (.arr [], rest)
        | cs => elements fuel room [] cs
    | '{' :: cs =>
      match room with
      | 0 => .error (.tooDeep .object)
      | room + 1 =>
        match skipSpace cs with
        | '}' :: rest => .ok (.obj [], rest)
        | cs => members fuel room [] cs
    | s => scalar s

/-- Reads the items of an array up to its closing bracket, after those read so far in reverse. -/
def elements : (fuel room : Nat) → List Value → List Char → Except ReadError (Value × List Char)
  | 0, _, _, _ => .error .malformed
  | fuel + 1, room, done, s =>
    match value fuel room s with
    | .error e => .error e
    | .ok (v, rest) =>
      match skipSpace rest with
      | ',' :: rest => elements fuel room (v :: done) (skipSpace rest)
      | ']' :: rest => .ok (.arr (v :: done).reverse, rest)
      | _ => .error .malformed

/-- Reads the members of an object up to its closing brace, after those read so far in reverse. -/
def members : (fuel room : Nat) → List (String × Value) → List Char →
    Except ReadError (Value × List Char)
  | 0, _, _, _ => .error .malformed
  | fuel + 1, room, done, s =>
    match s with
    | '"' :: cs =>
      match stringFrom [] fuel cs with
      | none => .error .malformed
      | some (k, rest) =>
        match skipSpace rest with
        | ':' :: rest =>
          match value fuel room (skipSpace rest) with
          | .error e => .error e
          | .ok (v, rest) =>
            match skipSpace rest with
            | ',' :: rest => members fuel room ((k, v) :: done) (skipSpace rest)
            | '}' :: rest => .ok (.obj (dedup ((k, v) :: done).reverse), rest)
            | _ => .error .malformed
        | _ => .error .malformed
    | _ => .error .malformed

end

/-- The value that a whole text writes, with white space around it. -/
def ofText (s : List Char) : Except ReadError Value :=
  match value (s.length + 1) maxDepth (skipSpace s) with
  | .error e => .error e
  | .ok (v, rest) => if (skipSpace rest).isEmpty then .ok v else .error .malformed

/-- The value that a string writes. -/
def ofString (s : String) : Except ReadError Value :=
  ofText s.toList

end SealedPage.Json
