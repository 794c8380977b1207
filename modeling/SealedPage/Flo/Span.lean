/-!
# Spans

The stretches of an interpolated text that came from bindings, `Span`, and the search by bisection
for the one that holds a position, `SpanIndex.containing`.
-/

namespace SealedPage.Flo

/-- The positions from `start` up to but not including `stop`. -/
structure Span where
  start : Nat
  stop : Nat
  deriving DecidableEq, Repr

/-- Whether a position lies in a span. -/
def Span.contains (s : Span) (position : Nat) : Bool :=
  s.start ≤ position && position < s.stop

/-- Spans in the order of their starts, ready for searching. -/
structure SpanIndex where
  spans : Array Span
  deriving Repr

namespace SpanIndex

/-- The index of a list of spans. -/
def ofList (spans : List Span) : SpanIndex :=
  ⟨spans.toArray⟩

/-- Halves the range from `lo` to `hi` until it is empty: the answer is the number of spans that
start at or before the position. Each round shrinks the range, so `fuel` may be its size. -/
def bisect (index : SpanIndex) (position : Nat) : (fuel lo hi : Nat) → Nat
  | 0, lo, _ => lo
  | fuel + 1, lo, hi =>
    if lo < hi then
      let mid := (lo + hi) / 2
      match index.spans[mid]? with
      | some s =>
        if position < s.start then index.bisect position fuel lo mid
        else index.bisect position fuel (mid + 1) hi
      | none => lo
    else lo

/-- How many spans start at or before the position. -/
def countStarts (index : SpanIndex) (position : Nat) : Nat :=
  index.bisect position index.spans.size 0 index.spans.size

/-- The span that holds the position: only the last one that starts at or before it can. -/
def containing (index : SpanIndex) (position : Nat) : Option Span :=
  match index.countStarts position with
  | 0 => none
  | n + 1 => index.spans[n]?.filter (·.contains position)

end SpanIndex

end SealedPage.Flo
