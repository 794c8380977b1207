import SealedPage.Codec.Hex
import SealedPage.Text.Quoted
import SealedPage.Text.Utf8

/-!
# Targets of requests

The path that a request asks for, `pathOfTarget`. A `Target` names a place below the root of a
service: its query, its fragment and the name of a host are left aside, and its dot segments are
resolved, `dropDotSegments`. The path is percent-encoded twice over, since the sender encodes a name
before it builds a target from it.
-/

namespace SealedPage.Http

/-- The bytes that percent-encoded bytes stand for. -/
def percentDecode : List UInt8 → List UInt8
  | [] => []
  | 0x25 :: a :: b :: rest =>
    match Codec.Hex.value? (Char.ofNat a.toNat), Codec.Hex.value? (Char.ofNat b.toNat) with
    | some x, some y => (16 * x + y).toUInt8 :: percentDecode rest
    | _, _ => 0x25 :: percentDecode (a :: b :: rest)
  | b :: rest => b :: percentDecode rest

/-- The text that a percent-encoded text stands for. -/
def decodeText (s : List Char) : List Char :=
  Text.Utf8.decodeLossy (percentDecode (Text.Utf8.encode s))

/-! ## Segments -/

/-- The segments of a path, given the letters of the current one in reverse. -/
def segmentsFrom (segment : List Char) : List Char → List (List Char)
  | [] => [segment.reverse]
  | c :: cs =>
    if c = '/' then segment.reverse :: segmentsFrom [] cs else segmentsFrom (c :: segment) cs

/-- Takes the next segment behind those in `done`, the last of which comes first: one dot stays
where it is, and two dots go back by a segment, but never above the root. -/
def takeSegment (done : List (List Char)) (segment : List Char) : List (List Char) :=
  if segment = ['.'] then done
  else if segment = ['.', '.'] then
    match done with
    | [] | [[]] => done
    | _ :: done => done
  else segment :: done

/-- A path without dot segments. -/
def dropDotSegments (path : List Char) : List Char :=
  ['/'].intercalate ((segmentsFrom [] path).foldl takeSegment []).reverse

/-- The path that an encoded path stands for; the empty path is the root. -/
def decodePath (encoded : List Char) : List Char :=
  match dropDotSegments encoded with
  | [] => ['/']
  | path => decodeText (decodeText path)

/-! ## Targets -/

/-- Why a target names no place. -/
inductive TargetError where
  /-- A control character of ASCII stands at a place in it. -/
  | control (c : Char) (place : Nat)
  /-- It begins with more than two slashes and no host between them. -/
  | slashes
  /-- It begins with a colon. -/
  | colon
  deriving DecidableEq, Repr

/-- The wording of a refusal. -/
def TargetError.message : TargetError → String
  | control c place =>
    "Invalid non-printable ASCII character in URL, " ++ Text.quoted (String.singleton c) ++
      " at position " ++ Nat.repr place ++ "."
  | slashes => "Relative URLs cannot have a path starting with '//'"
  | colon => "Relative URLs cannot have a path starting with ':'"

/-- The parts of a target that lead to a path. -/
structure Target where
  scheme : List Char
  host : List Char
  path : List Char
  deriving DecidableEq, Repr

/-- Whether a character is a control character of ASCII. -/
def isControl (c : Char) : Bool :=
  c.toNat < 0x20 || c.toNat == 0x7F

/-- Whether a character may stand in the name of a scheme. -/
def isSchemeChar (c : Char) : Bool :=
  c.isAlphanum || c == '+' || c == '.' || c == '-'

/-- The text up to the query and the fragment. -/
def dropQuery (s : List Char) : List Char :=
  s.takeWhile fun c => c != '?' && c != '#'

/-- The name of a scheme, which a colon ends, and the rest. -/
def splitScheme (s : List Char) : List Char × List Char :=
  let name := s.takeWhile isSchemeChar
  match s.drop name.length with
  | ':' :: rest => if (name.head?.map Char.isAlpha).getD true then (name, rest) else ([], s)
  | _ => ([], s)

/-- The name of a host, which two slashes begin, and the rest. -/
def splitHost : List Char → List Char × List Char
  | '/' :: '/' :: cs => cs.span (· != '/')
  | cs => ([], cs)

/-- The parts of a target. -/
def Target.ofText (s : List Char) : Target :=
  let (scheme, rest) := splitScheme (dropQuery s)
  let (host, path) := splitHost rest
  ⟨scheme, host, path⟩

/-- What is wrong with a target. -/
def Target.error? (t : Target) : Option TargetError :=
  if !t.scheme.isEmpty || !t.host.isEmpty then none
  else
    match t.path with
    | '/' :: '/' :: _ => some .slashes
    | ':' :: _ => some .colon
    | _ => none

/-- The encoded path of a target: that of a whole address as it stands, any other one behind the
root. -/
def Target.place (t : Target) : List Char :=
  if !t.scheme.isEmpty && !t.host.isEmpty then t.path
  else '/' :: t.path.dropWhile (· == '/')

/-- The path of a target. -/
def pathOfTarget (target : String) : Except TargetError (List Char) :=
  let s := target.toList
  match s.findIdx? isControl with
  | some place => .error (.control (s.getD place ' ') place)
  | none =>
    let t := Target.ofText s
    match t.error? with
    | some e => .error e
    | none => .ok (decodePath t.place)

end SealedPage.Http
