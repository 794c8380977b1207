import SealedPage.Text.Blank
import SealedPage.Flo.Bindings
import SealedPage.Flo.Span

/-!
# Placeholders and interpolation

A placeholder, `Placeholder`, is an identifier in double braces, with blanks allowed around it.
Interpolation, `interpolateSpans`, replaces each one by its bound value, once: values are not
searched again. The spans of the values are recorded in an `Interpolation`.
-/

namespace SealedPage.Flo

open Text

/-- Whether a character may stand in an identifier. -/
def isIdentifierChar (c : Char) : Bool :=
  c.isAlphanum || c == '_'

/-- A placeholder as it is written: the blanks before the name, the name, and the blanks after. -/
structure Placeholder where
  before : List Char
  name : List Char
  after : List Char
  deriving DecidableEq, Repr

namespace Placeholder

/-- The text of a placeholder. -/
def text (p : Placeholder) : List Char :=
  '{' :: '{' :: (p.before ++ p.name ++ p.after ++ ['}', '}'])

/-- The number of characters of a placeholder. -/
def length (p : Placeholder) : Nat :=
  p.before.length + p.name.length + p.after.length + 4

/-- The placeholder at the front of a text. -/
def atHead? : List Char → Option Placeholder
  | '{' :: '{' :: cs =>
    let before := cs.takeWhile isBlank
    let cs := cs.dropWhile isBlank
    let name := cs.takeWhile isIdentifierChar
    let cs := cs.dropWhile isIdentifierChar
    let after := cs.takeWhile isBlank
    match name, cs.dropWhile isBlank with
    | _ :: _, '}' :: '}' :: _ => some ⟨before, name, after⟩
    | _, _ => none
  | _ => none

end Placeholder

/-- A part of a source: one character that stands for itself, or a placeholder. -/
inductive Piece where
  | char (c : Char)
  | placeholder (p : Placeholder)
  deriving DecidableEq, Repr

/-- Cuts a source into pieces, from left to right. The first `skip` characters belong to the last
piece of `done`, which holds the pieces so far in reverse. -/
def piecesFrom (done : List Piece) : (skip : Nat) → List Char → List Piece
  | _, [] => done.reverse
  | skip + 1, _ :: cs => piecesFrom done skip cs
  | 0, c :: cs =>
    match Placeholder.atHead? (c :: cs) with
    | some p => piecesFrom (.placeholder p :: done) (p.length - 1) cs
    | none => piecesFrom (.char c :: done) 0 cs

/-- The pieces of a source. -/
def pieces (source : List Char) : List Piece :=
  piecesFrom [] 0 source

/-- A text being interpolated, in reverse, its length, and the spans so far, in reverse. -/
structure Interpolation where
  text : List Char := []
  length : Nat := 0
  spans : List Span := []
  deriving DecidableEq, Repr

/-- Writes one piece. An empty value leaves no span. -/
def Interpolation.push (b : Bindings) (i : Interpolation) : Piece → Interpolation
  | .char c => { i with text := c :: i.text, length := i.length + 1 }
  | .placeholder p =>
    let value := (b.lookup (String.ofList p.name)).toList
    if value.isEmpty then i
    else
      { text := value.reverseAux i.text
        length := i.length + value.length
        spans := ⟨i.length, i.length + value.length⟩ :: i.spans }

/-- The interpolated text with the spans of its values. -/
def interpolateSpans (source : List Char) (b : Bindings) : List Char × List Span :=
  let i := (pieces source).foldl (Interpolation.push b) {}
  (i.text.reverse, i.spans.reverse)

/-- A source with every placeholder replaced by its bound value. -/
def interpolate (source : String) (b : Bindings) : String :=
  String.ofList (interpolateSpans source.toList b).1

end SealedPage.Flo
