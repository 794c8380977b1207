import SealedPage.Flo.Anomaly
import SealedPage.Flo.Span
import SealedPage.Flo.Tag

/-!
# Tokens

The tags of an interpolated text that its author wrote, found by `scan`. A tag that begins or ends
inside a bound value is passed over; every other one becomes a `Token`, or an anomaly if it can
never be rewritten.
-/

namespace SealedPage.Flo

open Text

/-- A tag that a rule applies to, from `start` up to but not including `stop`. -/
structure Token where
  start : Nat
  stop : Nat
  name : String
  closing : Bool
  rule : Rule
  attributes : Attributes
  deriving DecidableEq, Repr

/-- A tag at a position: a token, or the first reason why it is none. -/
def Tag.toToken (rules : RuleTable) (start : Nat) (t : Tag) : Except Anomaly Token :=
  let name := String.ofList t.name
  match rules.get? name with
  | none => .error { kind := .unknownTag, tag := name, offset := start }
  | some rule =>
    if t.selfClosing then .error { kind := .selfClosingTag, tag := name, offset := start }
    else if t.closing && !t.attributes.isEmpty then
      .error { kind := .invalidAttributes, tag := name, offset := start,
               detail := some "closing tag carries attributes" }
    else
      .ok { start, stop := start + t.length, name, closing := t.closing, rule
            attributes := findAttributes t.attributeSource }

/-- The tokens and the anomalies found so far, both in reverse. -/
structure Scan where
  tokens : List Token := []
  anomalies : List Anomaly := []
  deriving DecidableEq, Repr

/-- Notes a tag. -/
def Scan.push (s : Scan) : Except Anomaly Token → Scan
  | .ok token => { s with tokens := token :: s.tokens }
  | .error anomaly => { s with anomalies := anomaly :: s.anomalies }

/-- Scans a text that begins at `position`, after passing over its first `skip` characters. A tag
that begins in a span is left by going to the span's end, one that ends in a span by going one
character on, and any other one by going to its own end. -/
def scanFrom (index : SpanIndex) (rules : RuleTable) (done : Scan) (position : Nat) :
    (skip : Nat) → List Char → Scan
  | _, [] => done
  | skip + 1, _ :: cs => scanFrom index rules done (position + 1) skip cs
  | 0, c :: cs =>
    match Tag.atHead? (c :: cs) with
    | none => scanFrom index rules done (position + 1) 0 cs
    | some t =>
      match index.containing position with
      | some s => scanFrom index rules done (position + 1) (s.stop - position - 1) cs
      | none =>
        match index.containing (position + t.length - 1) with
        | some _ => scanFrom index rules done (position + 1) 0 cs
        | none =>
          scanFrom index rules (done.push (t.toToken rules position)) (position + 1)
            (t.length - 1) cs

/-- The tokens and the anomalies of a text, in order. -/
def scan (index : SpanIndex) (rules : RuleTable) (text : List Char) : List Token × List Anomaly :=
  let s := scanFrom index rules {} 0 0 text
  (s.tokens.reverse, s.anomalies.reverse)

end SealedPage.Flo
