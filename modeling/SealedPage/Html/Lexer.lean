import SealedPage.Html.Token

/-!
# Cutting markup into tokens

The lexer, `lex`, reads markup twice: the first reading stops in front of a construct that does not
end, as more text might follow; the second one takes up what is left and reads such a construct as
text. The content of a raw element, `RawElement`, is text up to its end tag, and is dropped if there
is none.
-/

namespace SealedPage.Html

open Text

/-- The elements whose content is no markup. -/
inductive RawElement where
  | script
  | style
  deriving DecidableEq, Repr

namespace RawElement

/-- The name of a raw element. -/
def name : RawElement → String
  | script => "script"
  | style => "style"

/-- The raw element of a name. -/
def ofName? (s : String) : Option RawElement :=
  if s = "script" then some script else if s = "style" then some style else none

/-- Whether a character is the given small letter, up to case and to the forms of `i` and `s` that
fold to them. -/
def sameLetter (letter c : Char) : Bool :=
  c.toLower == letter || (letter == 's' && c == 'ſ') || (letter == 'i' && (c == 'ı' || c == 'İ'))

/-- The text behind the letters of a name. -/
def afterName? : List Char → List Char → Option (List Char)
  | [], cs => some cs
  | letter :: letters, c :: cs => if sameLetter letter c then afterName? letters cs else none
  | _ :: _, [] => none

/-- The length of an end tag of the element. -/
def endTag? (e : RawElement) : List Char → Option Nat
  | '<' :: '/' :: cs =>
    let blanks := cs.takeWhile isBlank
    match afterName? e.name.toList (cs.drop blanks.length) with
    | some behind => closingBracket? (2 + blanks.length + e.name.length) behind
    | none => none
  | _ => none

end RawElement

/-- Where reading stopped: the tokens in reverse, the raw element that is open, and the rest. -/
structure Lexed where
  tokens : List Token
  raw : Option RawElement
  rest : List Char
  deriving DecidableEq, Repr

/-- What one step of reading leads to. -/
inductive Step where
  /-- The tokens, in reverse, stand for the first `length` characters. -/
  | next (tokens : List Token) (length : Nat) (raw : Option RawElement)
  /-- Reading stops behind the first `length` characters, for which the tokens stand. -/
  | stop (tokens : List Token) (length : Nat)
  deriving DecidableEq, Repr

/-- A construct that does not end: as the last reading, it is text up to the next closing bracket,
or else up to the next opening one, or else one character. -/
def unfinished (final : Bool) (cs : List Char) : Step :=
  if !final then .stop [] 0
  else
    let length :=
      match bracketAfter? 1 cs with
      | some n => n
      | none =>
        match (cs.drop 1).findIdx? (· == '<') with
        | some n => n + 1
        | none => 1
    .next [.text (cs.take length)] length none

/-- The raw element that is open behind the given tokens. -/
def rawAfter : List Token → Option RawElement
  | [.startTag name _] => RawElement.ofName? name
  | _ => none

/-- The step that a reading leads to. -/
def Reading.step (final : Bool) (cs : List Char) : Reading → Step
  | .found tokens length => .next tokens.reverse length (rawAfter tokens)
  | .incomplete => unfinished final cs

/-- Reads what begins with an opening bracket. -/
def bracketStep (final : Bool) (cs : List Char) : Except ReadError Step :=
  match cs with
  | _ :: c :: rest =>
    if c.isAlpha then (startTag cs).map (Reading.step final cs)
    else if c = '/' then .ok ((endTag cs).step final cs)
    else if c = '!' then
      match rest with
      | '-' :: '-' :: _ => .ok ((comment cs).step final cs)
      | _ => (declaration cs).map (Reading.step final cs)
    else if c = '?' then .ok ((instruction cs).step final cs)
    else .ok (.next [.text ['<']] 1 none)
  | _ => .ok (.stop [] 0)

/-- A text token, unless the text is empty. -/
def textTokens (s : List Char) : List Token :=
  if s.isEmpty then [] else [.text s]

/-- Reads what begins with an ampersand. -/
def ampersandStep (final : Bool) (cs : List Char) : Except ReadError Step :=
  (reference final cs).map fun
    | .text s length => .next (textTokens s) length none
    | .stop s length => .stop (textTokens s) length

/-- Reads the content of a raw element up to what looks like its end tag. If that is spelled with
other letters, it is content itself. -/
def rawStep (e : RawElement) (cs : List Char) : Step :=
  match search e.endTag? cs with
  | none => .stop [] 0
  | some (place, length) =>
    let content := textTokens (cs.take place)
    let mark := (cs.drop place).take length
    match plainEndTag? mark with
    | some _ => .next (.endTag e.name :: content) (place + length) none
    | none => .next (.text mark :: content) (place + length) (some e)

/-- Whether a character stands for itself in text. -/
def isPlain (c : Char) : Bool :=
  c != '<' && c != '&'

/-- Reads the next piece of a text that is not empty. -/
def step (final : Bool) (raw : Option RawElement) (c : Char) (cs : List Char) :
    Except ReadError Step :=
  match raw with
  | some e => .ok (rawStep e (c :: cs))
  | none =>
    if c = '<' then bracketStep final (c :: cs)
    else if c = '&' then ampersandStep final (c :: cs)
    else
      let s := c :: cs.takeWhile isPlain
      .ok (.next [.text s] s.length none)

/-- Reads a text after passing over its first `skip` characters; the tokens so far stand in
reverse. -/
def lexFrom (final : Bool) (done : List Token) (raw : Option RawElement) :
    (skip : Nat) → List Char → Except ReadError Lexed
  | _, [] => .ok ⟨done, raw, []⟩
  | skip + 1, _ :: cs => lexFrom final done raw skip cs
  | 0, c :: cs =>
    match step final raw c cs with
    | .error e => .error e
    | .ok (.next tokens length raw') => lexFrom final (tokens ++ done) raw' (length - 1) cs
    | .ok (.stop tokens length) => .ok ⟨tokens ++ done, raw, (c :: cs).drop length⟩

/-- The tokens of a text. What the second reading leaves is text, but for the content of an open
raw element. -/
def lex (s : List Char) : Except ReadError (List Token) := do
  let first ← lexFrom false [] none 0 s
  let second ← lexFrom true first.tokens first.raw 0 first.rest
  let left := if second.raw.isSome then [] else textTokens second.rest
  return (left ++ second.tokens).reverse

end SealedPage.Html
