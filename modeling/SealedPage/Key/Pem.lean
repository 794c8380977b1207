import SealedPage.Codec.Base64
import SealedPage.Datum
import SealedPage.Text.Blank
import SealedPage.Text.Digit
import SealedPage.Text.Utf8

/-!
# PEM

Armoured text, `Block`: base64 between two marks that carry a label, with headers in front of the
base64 if an empty line stands between them. Other text may stand around a block, and a text may
hold several blocks: `read?` takes the first one, and `find?` the first one under one of some
labels.
-/

namespace SealedPage.Key.Pem

open Text

/-- A block: its label, the lines of its headers, and the bytes in it. -/
structure Block where
  label : String
  headers : List String := []
  bytes : Bytes
  deriving DecidableEq, Repr

/-! ## Finding blocks -/

/-- What stands in front of a mark, in reverse behind `before`, and what stands behind it; `left` is
the part of the mark still to come. After a byte that does not fit, the search goes on behind that
byte. -/
def splitAtMark? (mark : Bytes) (left before : Bytes) : Bytes → Option (Bytes × Bytes)
  | [] => none
  | b :: bs =>
    match left with
    | [] => none
    | m :: left =>
      if b = m then
        if left.isEmpty then some (((b :: before).drop mark.length).reverse, bs)
        else splitAtMark? mark left (b :: before) bs
      else splitAtMark? mark mark (b :: before) bs

/-- What stands in front of a mark and what stands behind it, if the search finds the mark. -/
def splitAt? (mark : String) (s : Bytes) : Option (Bytes × Bytes) :=
  splitAtMark? (Utf8.ofString mark) (Utf8.ofString mark) [] s

/-- The text behind the blanks at its front. -/
def skipBlanks (s : Bytes) : Bytes :=
  s.dropWhile fun b => b == 0x20 || b == 0x09 || b == 0x0A || b == 0x0D

/-- The parts of a block, not yet read: the label, what stands between the marks, and the label of
the mark at the end. -/
structure Frame where
  label : Bytes
  payload : Bytes
  endLabel : Bytes
  deriving DecidableEq, Repr

/-- The first block in a text, and the text behind it. -/
def frame? (s : Bytes) : Option (Frame × Bytes) :=
  match splitAt? "-----BEGIN " s with
  | none => none
  | some (_, s) =>
    match splitAt? "-----" s with
    | none => none
    | some (label, s) =>
      match splitAt? "-----END " (skipBlanks s) with
      | none => none
      | some (payload, s) =>
        (splitAt? "-----" s).map fun (endLabel, s) => (⟨label, payload, endLabel⟩, skipBlanks s)

/-- The blocks in a text, one behind the other. -/
def frames (s : Bytes) : List Frame :=
  match frame? s with
  | none => []
  | some (f, rest) => if rest.length < s.length then f :: frames rest else [f]
termination_by s.length

/-! ## Reading blocks -/

/-- The headers of a payload and the rest of it: an empty line divides them, with plain line feeds
if there is one such line, and with carriage returns otherwise. -/
def splitHeaders (payload : Bytes) : Bytes × Bytes :=
  match splitAt? "\n\n" payload with
  | some split => split
  | none => (splitAt? "\r\n\r\n" payload).getD ([], payload)

/-- The lines of a text without the ends of the lines. -/
def lines (s : String) : List String :=
  let pieces := s.splitOn "\n"
  let pieces := if pieces.getLast? = some "" then pieces.dropLast else pieces
  pieces.map fun line => if line.endsWith "\r" then (line.dropEnd 1).copy else line

/-- The bytes that base64 stands for, if it is in the one form that they are written in; white space
does not count. -/
def decodeBase64? (s : List Char) : Option Bytes :=
  let s := s.filter fun c => !isMargin c
  match Codec.Base64.decode s with
  | .ok bytes => if Codec.Base64.encode bytes = s then some bytes else none
  | .error _ => none

/-- The block in a frame: both labels have to be the same and not empty, every header has to hold a
colon, and nothing but base64 may follow. -/
def Frame.read? (f : Frame) : Option Block :=
  let (headers, data) := splitHeaders f.payload
  match Utf8.decode f.label, Utf8.decode headers, Utf8.decode data with
  | .ok label, .ok headers, .ok data =>
    let headers := lines (String.ofList headers)
    if f.endLabel = f.label && !label.isEmpty && headers.all (·.contains ':') then
      (decodeBase64? data).map fun bytes => ⟨String.ofList label, headers, bytes⟩
    else none
  | _, _, _ => none

/-- The first block in a text, if it can be read. -/
def read? (s : Bytes) : Option Block :=
  match frame? s with
  | some (f, _) => f.read?
  | none => none

/-- The first block in a text with one of the given labels, if all blocks can be read. -/
def find? (labels : List String) (s : Bytes) : Option Block :=
  match (frames s).mapM Frame.read? with
  | some blocks => blocks.find? fun b => labels.contains b.label
  | none => none

/-- The name and the value that a header line holds, without margins. -/
def splitHeader (line : String) : String × String :=
  let name := line.toList.takeWhile (· != ':')
  (String.ofList (trimMargins name),
    String.ofList (trimMargins (line.toList.drop (name.length + 1))))

/-- The value of the last header of a block that has the given name. -/
def Block.header? (b : Block) (name : String) : Option String :=
  (b.headers.map splitHeader).reverse.lookup name

/-! ## Writing -/

/-- Characters in lines of the given length, each with a line feed behind it; `room` is what is
left in the current line, and the text so far stands in reverse. -/
def linesFrom (width : Nat) (done : List Char) (room : Nat) : List Char → List Char
  | [] => (if room = width then done else '\n' :: done).reverse
  | c :: cs =>
    if room ≤ 1 then linesFrom width ('\n' :: c :: done) width cs
    else linesFrom width (c :: done) (room - 1) cs

/-- A block without headers as text, in lines of 64 characters. -/
def Block.write (b : Block) : String :=
  "-----BEGIN " ++ b.label ++ "-----\n" ++
    String.ofList (linesFrom 64 [] 64 (Codec.Base64.encode b.bytes)) ++
    "-----END " ++ b.label ++ "-----\n"

end SealedPage.Key.Pem
