import SealedPage.Datum

/-!
# DER

The part of the distinguished encoding rules that keys are written in, `Value`. Every value has one
encoding, `Value.write`, and `read?` accepts no other one. Values of other kinds are kept as they
are and not looked into.
-/

namespace SealedPage.Der

/-- A value. Integers are not negative. -/
inductive Value where
  | integer (n : Nat)
  /-- Bits in whole bytes, of which the last `unused` bits do not count and are zero. -/
  | bitString (unused : UInt8) (bytes : Bytes)
  | octetString (bytes : Bytes)
  | null
  /-- An object identifier, by its content. -/
  | oid (content : Bytes)
  | sequence (items : List Value)
  /-- Items in a tag that the context gives a meaning to. -/
  | context (number : Nat) (items : List Value)
  /-- A value of another kind, by its tag and its content. -/
  | other (tag : UInt8) (content : Bytes)
  deriving Repr, Inhabited

/-- The bytes of a number, the highest first, with no leading zero, in front of `rest`. -/
def numberBytesTo (rest : Bytes) : (fuel : Nat) → Nat → Bytes
  | 0, _ => rest
  | fuel + 1, n => if n = 0 then rest else numberBytesTo (n.toUInt8 :: rest) fuel (n / 256)

/-- The bytes of a number, the highest first, with no leading zero. -/
def numberBytes (n : Nat) : Bytes :=
  numberBytesTo [] (n.log2 / 8 + 1) n

/-- The number that bytes spell, the highest first. -/
def number (bytes : Bytes) : Nat :=
  bytes.foldl (fun n b => 256 * n + b.toNat) 0

/-! ## Writing -/

/-- The encoding of a length. -/
def lengthBytes (n : Nat) : Bytes :=
  if n < 128 then [n.toUInt8]
  else
    let bytes := numberBytes n
    (128 + bytes.length).toUInt8 :: bytes

/-- A content with its tag and length. -/
def tagged (tag : UInt8) (content : Bytes) : Bytes :=
  tag :: (lengthBytes content.length ++ content)

/-- The content of an integer: a zero stands in front of a byte with its highest bit set. -/
def integerContent (n : Nat) : Bytes :=
  match numberBytes n with
  | [] => [0]
  | b :: bytes => if b < 128 then b :: bytes else 0 :: b :: bytes

mutual

/-- The encoding of a value. -/
def Value.write : Value → Bytes
  | .integer n => tagged 0x02 (integerContent n)
  | .bitString unused bytes => tagged 0x03 (unused :: bytes)
  | .octetString bytes => tagged 0x04 bytes
  | .null => tagged 0x05 []
  | .oid content => tagged 0x06 content
  | .sequence items => tagged 0x30 (writeAll items)
  | .context number items => tagged (0xA0 + number).toUInt8 (writeAll items)
  | .other tag content => tagged tag content

/-- The encodings of values, one behind the other. -/
def writeAll : List Value → Bytes
  | [] => []
  | v :: vs => v.write ++ writeAll vs

end

/-! ## Reading -/

/-- A length and what follows it; only the shortest form is accepted. -/
def readLength : Bytes → Option (Nat × Bytes)
  | [] => none
  | b :: rest =>
    if b < 128 then some (b.toNat, rest)
    else
      let count := b.toNat - 128
      let bytes := rest.take count
      if count = 0 || 4 < count || bytes.length < count || bytes.head? = some 0 then none
      else
        let n := number bytes
        if n < 128 then none else some (n, rest.drop count)

/-- A tag with its content, and what follows. Tags of several bytes are not read. -/
def readTagged : Bytes → Option (UInt8 × Bytes × Bytes)
  | [] => none
  | tag :: rest =>
    if tag &&& 0x1F = 0x1F then none
    else
      match readLength rest with
      | none => none
      | some (n, rest) =>
        if rest.length < n then none else some (tag, rest.take n, rest.drop n)

/-- The integer of a content, if that is the shortest form of one that is not negative. -/
def readInteger : Bytes → Option Nat
  | [] => none
  | [b] => if b < 128 then some b.toNat else none
  | b :: c :: bytes =>
    if 128 ≤ b || (b = 0 && c < 128) then none else some (number (b :: c :: bytes))

/-- The bit string of a content. -/
def readBits : Bytes → Option Value
  | [] => none
  | unused :: bytes =>
    match bytes.getLast? with
    | none => if unused = 0 then some (.bitString 0 []) else none
    | some last =>
      if unused < 8 && (last >>> unused) <<< unused = last then some (.bitString unused bytes)
      else none

/-- Whether bytes are the parts of an object identifier, each of which ends in a byte below 128 and
begins with another one than 128; `inside` says that a part has begun. -/
def areParts (inside : Bool) : Bytes → Bool
  | [] => !inside
  | b :: bytes => (inside || b != 0x80) && areParts (128 ≤ b) bytes

mutual

/-- The value at the front of bytes, and what follows. Every round takes at least two bytes, so any
`fuel` from the number of bytes on will do. -/
def readValue : (fuel : Nat) → Bytes → Option (Value × Bytes)
  | 0, _ => none
  | fuel + 1, bytes =>
    match readTagged bytes with
    | none => none
    | some (tag, content, rest) =>
      if tag = 0x02 then (readInteger content).map fun n => (.integer n, rest)
      else if tag = 0x03 then (readBits content).map fun v => (v, rest)
      else if tag = 0x04 then some (.octetString content, rest)
      else if tag = 0x05 then if content.isEmpty then some (.null, rest) else none
      else if tag = 0x06 then
        if content.isEmpty || !areParts false content then none else some (.oid content, rest)
      else if tag = 0x30 then (readAll fuel content).map fun vs => (.sequence vs, rest)
      else if 0xA0 ≤ tag && tag < 0xA4 then
        (readAll fuel content).map fun vs => (.context (tag.toNat - 0xA0) vs, rest)
      else some (.other tag content, rest)

/-- The values that bytes hold, one behind the other. -/
def readAll : (fuel : Nat) → Bytes → Option (List Value)
  | 0, bytes => if bytes.isEmpty then some [] else none
  | fuel + 1, bytes =>
    if bytes.isEmpty then some []
    else
      match readValue fuel bytes with
      | none => none
      | some (v, rest) => (readAll fuel rest).map (v :: ·)

end

/-! ## Sets -/

/-- The encodings that bytes hold, one behind the other, not looked into. Every round takes at least
two bytes, so any `fuel` from the number of bytes on will do. -/
def splitAll : (fuel : Nat) → Bytes → Option (List Bytes)
  | 0, bytes => if bytes.isEmpty then some [] else none
  | fuel + 1, bytes =>
    if bytes.isEmpty then some []
    else
      match readTagged bytes with
      | none => none
      | some (_, _, rest) =>
        (splitAll fuel rest).map (bytes.take (bytes.length - rest.length) :: ·)

/-- Whether each encoding stands behind those that are not greater. -/
def areSorted : List Bytes → Bool
  | a :: b :: rest => decide (a ≤ b) && areSorted (b :: rest)
  | _ => true

/-- Whether the content of a set is in order. -/
def isSetContent (content : Bytes) : Bool :=
  ((splitAll content.length content).map areSorted).getD false

/-! ## Whole values -/

/-- The value that bytes encode. -/
def read? (bytes : Bytes) : Option Value :=
  match readValue (bytes.length + 1) bytes with
  | some (v, []) => some v
  | _ => none

end SealedPage.Der
