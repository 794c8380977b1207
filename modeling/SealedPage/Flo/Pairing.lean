import Std.Data.HashMap
import SealedPage.Flo.Token

/-!
# Pairing tokens

A closing token pairs with the nearest open token of the same name; open tokens above that one are
left unclosed. `pairTokens` takes the tokens one by one, `Pairing.step`. Next to the stack of open
tokens stands an index that maps each name to its places in the stack, so that no search is needed.
-/

namespace SealedPage.Flo

/-- How many line feeds stand before each position of a text. -/
def lineCounts (text : List Char) : Array Nat :=
  (text.foldl (fun (done, n) c =>
    let n := if c = '\n' then n + 1 else n
    (done.push n, n)) ((#[0] : Array Nat), 0)).1

/-- The count at a position; behind the end it is that of the whole text. -/
def lineCountAt (counts : Array Nat) (position : Nat) : Nat :=
  match counts[position]? with
  | some n => n
  | none => counts.back?.getD 0

/-- Whether a line feed stands between two positions. -/
def spansLines (counts : Array Nat) (start stop : Nat) : Bool :=
  lineCountAt counts start < lineCountAt counts stop

/-- An open token and the tag that will be written for it. -/
structure Opener where
  token : Token
  rendered : String
  deriving DecidableEq, Repr

/-- Two tokens that are rewritten together. -/
structure Pair where
  opener : Opener
  closer : Token
  deriving DecidableEq, Repr

/-- The anomaly of a token that pairs with none. -/
def Token.unbalanced (t : Token) (detail : String) : Anomaly :=
  { kind := .unbalancedTag, tag := t.name, offset := t.start, detail := some detail }

/-- The state of pairing: the open tokens, lowest first, for each name its places in that stack,
highest first, and the pairs and anomalies found so far, both in reverse. -/
structure Pairing where
  stack : Array Opener := #[]
  openByName : Std.HashMap String (List Nat) := ∅
  pairs : List Pair := []
  anomalies : List Anomaly := []

namespace Pairing

/-- Notes an anomaly. -/
def report (p : Pairing) (a : Anomaly) : Pairing :=
  { p with anomalies := a :: p.anomalies }

/-- Puts an opening token on the stack, unless its rule refuses its attributes. -/
def enter (p : Pairing) (token : Token) : Pairing :=
  match token.rule.openTag? token.attributes with
  | none =>
    p.report { kind := .invalidAttributes, tag := token.name, offset := token.start }
  | some rendered =>
    { p with
      openByName := p.openByName.insert token.name
        (p.stack.size :: p.openByName.getD token.name [])
      stack := p.stack.push ⟨token, rendered⟩ }

/-- Gives up an open token: its name loses the highest place, and an anomaly is noted. -/
def skip (p : Pairing) (o : Opener) : Pairing :=
  { p with
    openByName := p.openByName.insert o.token.name (p.openByName.getD o.token.name []).tail
    anomalies := o.token.unbalanced "opener left unclosed" :: p.anomalies }

/-- Pairs an open token with a closing one. An inline pair that spans several lines is given up,
both tokens at once. -/
def join (counts : Array Nat) (p : Pairing) (o : Opener) (token : Token) : Pairing :=
  if token.rule.inline && spansLines counts o.token.stop token.start then
    (p.report (o.token.unbalanced "inline tag spans multiple lines")).report
      (token.unbalanced "inline tag spans multiple lines")
  else { p with pairs := ⟨o, token⟩ :: p.pairs }

/-- Takes a closing token. -/
def close (counts : Array Nat) (p : Pairing) (token : Token) : Pairing :=
  match p.openByName.getD token.name [] with
  | [] => p.report (token.unbalanced "closing tag without opener")
  | place :: places =>
    match p.stack[place]? with
    | none => p
    | some opener =>
      let skipped := p.stack.extract (place + 1) p.stack.size
      let p : Pairing :=
        { p with
          stack := p.stack.shrink place
          openByName := p.openByName.insert token.name places }
      join counts (skipped.foldl skip p) opener token

/-- Takes the next token. -/
def step (counts : Array Nat) (p : Pairing) (token : Token) : Pairing :=
  if token.closing then p.close counts token else p.enter token

/-- Reports what is still open. -/
def finish (p : Pairing) : Pairing :=
  p.stack.foldl (fun p o => p.report (o.token.unbalanced "opener left unclosed")) p

end Pairing

/-- The pairs of a list of tokens in the given text, and the anomalies, in the order found. -/
def pairTokens (text : List Char) (tokens : List Token) : List Pair × List Anomaly :=
  let p := (tokens.foldl (Pairing.step (lineCounts text)) {}).finish
  (p.pairs.reverse, p.anomalies.reverse)

/-- What is written in place of the token that begins at a position. -/
abbrev Replacements := Std.HashMap Nat String

/-- The replacements of a list of pairs. -/
def Replacements.ofPairs (pairs : List Pair) : Replacements :=
  pairs.foldl (fun m p =>
    (m.insert p.opener.token.start p.opener.rendered).insert p.closer.start
      p.closer.rule.closeTag) ∅

end SealedPage.Flo
