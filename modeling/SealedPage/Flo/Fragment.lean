import SealedPage.Flo.Placeholder
import SealedPage.Flo.Pairing

/-!
# Compiling FLO to HTML

The compiler, `compile`: a source is interpolated, its tags are scanned and paired, and every paired
tag is replaced, `rewriteTags`. Everything else passes through unchanged. Compilation never fails:
tags that are left as they are are reported as the anomalies of the `Fragment`, in the order of
their places.
-/

namespace SealedPage.Flo

/-- The HTML of a document and the anomalies met, in the order of their offsets. -/
structure Fragment where
  html : String
  anomalies : List Anomaly
  deriving DecidableEq, Repr

/-- Puts the replacements of tokens into a text that begins at `cursor`, behind the characters in
`done`, which stand in reverse. -/
def substitute (replacements : Replacements) (done : List Char) (cursor : Nat) (rest : List Char) :
    List Token → List Char
  | [] => done.reverse ++ rest
  | token :: tokens =>
    match replacements[token.start]? with
    | none => substitute replacements done cursor rest tokens
    | some rendered =>
      let before := rest.take (token.start - cursor)
      substitute replacements (rendered.toList.reverse ++ (before.reverse ++ done)) token.stop
        (rest.drop (token.stop - cursor)) tokens

/-- Rewrites an interpolated text, given the spans of its values. -/
def rewriteTags (rules : RuleTable) (text : List Char) (spans : List Span) : Fragment :=
  let (tokens, unread) := scan (SpanIndex.ofList spans) rules text
  let (pairs, unpaired) := pairTokens text tokens
  { html := String.ofList (substitute (Replacements.ofPairs pairs) [] 0 text tokens)
    anomalies := (unread ++ unpaired).mergeSort fun a b => a.offset ≤ b.offset }

/-- Compiles a source. -/
def compile (source : String) (b : Bindings := {}) (rules : RuleTable := RuleTable.standard) :
    Fragment :=
  let (text, spans) := interpolateSpans source.toList b
  rewriteTags rules text spans

/-- What was handed in as a source is no text. -/
structure NotText where
  kind : String
  deriving DecidableEq, Repr

/-- The wording of the refusal. -/
def NotText.message (e : NotText) : String :=
  "FLO source must be decoded text, got " ++ e.kind

/-- The source that a value is. -/
def sourceText : Datum → Except NotText String
  | .json (.str s) => .ok s
  | d => .error ⟨d.kind⟩

end SealedPage.Flo
