/-!
# UTF-8

Writing text as bytes, `encode`, and reading bytes back, `decode`. Reading stops at the first
ill-formed sequence and reports its longest prefix that could still have begun a character, with the
reason, as a `DecodeError`.
-/

namespace SealedPage.Text.Utf8

/-- The bytes of one character. -/
def encodeChar (c : Char) : List UInt8 :=
  let n := c.toNat
  if n < 0x80 then [n.toUInt8]
  else if n < 0x800 then [(0xC0 + n / 0x40).toUInt8, (0x80 + n % 0x40).toUInt8]
  else if n < 0x10000 then
    [(0xE0 + n / 0x1000).toUInt8, (0x80 + n / 0x40 % 0x40).toUInt8, (0x80 + n % 0x40).toUInt8]
  else
    [(0xF0 + n / 0x40000).toUInt8, (0x80 + n / 0x1000 % 0x40).toUInt8,
      (0x80 + n / 0x40 % 0x40).toUInt8, (0x80 + n % 0x40).toUInt8]

/-- The bytes of a text. -/
def encode (s : List Char) : List UInt8 :=
  s.flatMap encodeChar

/-- Why a byte sequence is ill-formed. -/
inductive Reason where
  /-- The first byte begins no character. -/
  | invalidStart
  /-- A byte that should continue a character does not. -/
  | invalidContinuation
  /-- The bytes end inside a character. -/
  | unexpectedEnd
  deriving DecidableEq, Repr

/-- An ill-formed sequence: where it starts, how many bytes belong to it, and its first byte. -/
structure DecodeError where
  start : Nat
  length : Nat
  first : UInt8
  reason : Reason
  deriving DecidableEq, Repr

/-- The range of a second byte after the given first byte of a sequence of three or four. -/
def secondRange (first : UInt8) : UInt8 × UInt8 :=
  if first == 0xE0 then (0xA0, 0xBF)
  else if first == 0xED then (0x80, 0x9F)
  else if first == 0xF0 then (0x90, 0xBF)
  else if first == 0xF4 then (0x80, 0x8F)
  else (0x80, 0xBF)

/-- Whether a byte may follow the given first byte. -/
def isSecond (first b : UInt8) : Bool :=
  (secondRange first).1 ≤ b && b ≤ (secondRange first).2

/-- Whether a byte is a continuation byte. -/
def isContinuation (b : UInt8) : Bool :=
  0x80 ≤ b && b ≤ 0xBF

/-- The six payload bits of a continuation byte. -/
def payload (b : UInt8) : Nat :=
  b.toNat % 0x40

/-- Reads bytes from position `at`, with the characters read so far in reverse. -/
def decodeFrom (pos : Nat) (done : List Char) : List UInt8 → Except DecodeError (List Char)
  | [] => .ok done.reverse
  | b₀ :: bytes =>
    if b₀ < 0x80 then decodeFrom (pos + 1) (Char.ofNat b₀.toNat :: done) bytes
    else if b₀ < 0xC2 || 0xF4 < b₀ then .error ⟨pos, 1, b₀, .invalidStart⟩
    else match bytes with
    | [] => .error ⟨pos, 1, b₀, .unexpectedEnd⟩
    | b₁ :: bytes =>
      if !isSecond b₀ b₁ then .error ⟨pos, 1, b₀, .invalidContinuation⟩
      else if b₀ < 0xE0 then
        decodeFrom (pos + 2) (Char.ofNat (b₀.toNat % 0x20 * 0x40 + payload b₁) :: done) bytes
      else match bytes with
      | [] => .error ⟨pos, 2, b₀, .unexpectedEnd⟩
      | b₂ :: bytes =>
        if !isContinuation b₂ then .error ⟨pos, 2, b₀, .invalidContinuation⟩
        else if b₀ < 0xF0 then
          decodeFrom (pos + 3)
            (Char.ofNat (b₀.toNat % 0x10 * 0x1000 + payload b₁ * 0x40 + payload b₂) :: done) bytes
        else match bytes with
        | [] => .error ⟨pos, 3, b₀, .unexpectedEnd⟩
        | b₃ :: bytes =>
          if !isContinuation b₃ then .error ⟨pos, 3, b₀, .invalidContinuation⟩
          else
            decodeFrom (pos + 4)
              (Char.ofNat (b₀.toNat % 0x08 * 0x40000 + payload b₁ * 0x1000 + payload b₂ * 0x40 +
                payload b₃) :: done) bytes

/-- The text that the bytes spell. -/
def decode (bytes : List UInt8) : Except DecodeError (List Char) :=
  decodeFrom 0 [] bytes

/-- The bytes of a string. -/
def ofString (s : String) : List UInt8 :=
  encode s.toList

/-- The string that the bytes spell. -/
def toString (bytes : List UInt8) : Except DecodeError String :=
  (decode bytes).map String.ofList

/-- The text that the bytes spell, with the replacement character for each ill-formed sequence. -/
def decodeLossy (bytes : List UInt8) : List Char :=
  match decode bytes with
  | .ok cs => cs
  | .error e =>
    if bytes = [] then []
    else
      let before := match decode (bytes.take e.start) with
        | .ok cs => cs
        | .error _ => []
      before ++ '\uFFFD' :: decodeLossy (bytes.drop (e.start + e.length + (1 - e.length)))
termination_by bytes.length
decreasing_by
  have : 0 < bytes.length := List.length_pos_iff.mpr ‹_›
  simp only [List.length_drop]
  omega

/-- The two lower-case hexadecimal digits of a byte. -/
def hexByte (b : UInt8) : String :=
  String.ofList [Nat.digitChar (b.toNat / 16), Nat.digitChar (b.toNat % 16)]

/-- The wording of a reason. -/
def Reason.message : Reason → String
  | .invalidStart => "invalid start byte"
  | .invalidContinuation => "invalid continuation byte"
  | .unexpectedEnd => "unexpected end of data"

/-- The wording of an error: one byte is shown, a longer sequence is given by its positions. -/
def DecodeError.message (e : DecodeError) : String :=
  if e.length ≤ 1 then
    "'utf-8' codec can't decode byte 0x" ++ hexByte e.first ++ " in position " ++
      Nat.repr e.start ++ ": " ++ e.reason.message
  else
    "'utf-8' codec can't decode bytes in position " ++ Nat.repr e.start ++ "-" ++
      Nat.repr (e.start + e.length - 1) ++ ": " ++ e.reason.message

end SealedPage.Text.Utf8
