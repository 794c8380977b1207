import SealedPage.Codec.Hex
import SealedPage.Datum
import SealedPage.Fields.Read

/-!
# Identifiers

An `Identifier` has sixteen bytes. It is written as digits in five groups, `Identifier.text`, and
read in a few other forms too, `Identifier.read`.
-/

namespace SealedPage.Render

open Fields

/-- An identifier of sixteen bytes. -/
structure Identifier where
  bytes : Bytes
  size : bytes.length = 16
  deriving DecidableEq, Repr

namespace Identifier

/-- Puts hyphens between the five groups of an identifier's digits. -/
def group (digits : List Char) : List Char :=
  digits.take 8 ++ '-' :: (digits.drop 8).take 4 ++ '-' :: (digits.drop 12).take 4 ++
    '-' :: (digits.drop 16).take 4 ++ '-' :: digits.drop 20

/-- The text of an identifier, in lower case. -/
def text (i : Identifier) : String :=
  String.ofList (group (Codec.Hex.encode i.bytes))

/-- The identifier that 32 digits write. -/
def ofDigits? (digits : List Char) : Option Identifier :=
  match Codec.Hex.decode? digits with
  | some bytes => if h : bytes.length = 16 then some ⟨bytes, h⟩ else none
  | none => none

/-- The identifier that digits in five groups write. -/
def ofGroups? (s : List Char) : Option Identifier :=
  let digits := s.filter (· != '-')
  if digits.length = 32 && group digits == s then ofDigits? digits else none

/-- The text in front of an identifier that is written as a name. -/
def nameMark : List Char :=
  "urn:uuid:".toList

/-- The identifier that a text writes: its digits alone or in groups, and the groups also in braces
or as a name. -/
def ofText? (s : String) : Option Identifier :=
  let cs := s.toList
  match cs with
  | '\x7b' :: rest =>
    if rest.getLast? = some '\x7d' then ofGroups? rest.dropLast else none
  | _ =>
    if cs.length = 32 then ofDigits? cs
    else if nameMark.isPrefixOf cs then ofGroups? (cs.drop nameMark.length)
    else ofGroups? cs

/-- The identifier in a field. -/
def read : Json.Value → Checked Identifier
  | .str s =>
    match ofText? s with
    | some i => .ok i
    | none => .fail .noIdentifierText
  | _ => .fail .notIdentifier

end Identifier

end SealedPage.Render
