import SealedPage.Text.Blank
import SealedPage.Text.Case
import SealedPage.Html.Reference

/-!
# HTML tokens

The tokens of HTML markup, `Token`, and the reading of single constructs: start tags with their
attributes, `startTag`, end tags, comments, declarations and references. Each reader takes a text
that begins with the construct and says how many characters the construct takes, as a `Reading`.
Markup is never refused for a broken tag; only a marked section of an unknown kind is,
`markedSection`.
-/

namespace SealedPage.Html

open Text

/-- A piece of markup. -/
inductive Token where
  /-- `<name ...>`. -/
  | startTag (name : String) (attributes : List (String × String))
  /-- `<name .../>`. -/
  | emptyTag (name : String) (attributes : List (String × String))
  /-- `</name>`. -/
  | endTag (name : String)
  | text (s : List Char)
  | comment (s : List Char)
  /-- `<!DOCTYPE ...>`, without the keyword. -/
  | doctype (s : List Char)
  /-- `<?...>`. -/
  | instruction (s : List Char)
  /-- `<![CDATA[...]]>`. -/
  | cdata (s : List Char)
  /-- Any other marked section. -/
  | declaration (s : List Char)
  deriving DecidableEq, Repr

/-- What was read at the front of a text. -/
inductive Reading where
  /-- Tokens that take `length` characters. -/
  | found (tokens : List Token) (length : Nat)
  /-- The construct does not end in the text. -/
  | incomplete
  deriving DecidableEq, Repr

/-! ## Searching -/

/-- The first place where a construct is found by `length?`, with the construct's length. -/
def searchFrom (length? : List Char → Option Nat) (place : Nat) : List Char → Option (Nat × Nat)
  | [] => none
  | c :: cs =>
    match length? (c :: cs) with
    | some n => some (place, n)
    | none => searchFrom length? (place + 1) cs

/-- The first place where a construct is found by `length?`, with the construct's length. -/
def search (length? : List Char → Option Nat) (cs : List Char) : Option (Nat × Nat) :=
  searchFrom length? 0 cs

/-- The length of a construct that goes on with blanks and a closing bracket. -/
def closingBracket? (before : Nat) (cs : List Char) : Option Nat :=
  let blanks := cs.takeWhile isBlank
  match cs.drop blanks.length with
  | '>' :: _ => some (before + blanks.length + 1)
  | _ => none

/-- The length of the end of a comment. -/
def commentEnd? : List Char → Option Nat
  | '-' :: '-' :: cs => closingBracket? 2 cs
  | _ => none

/-- The length of the end of a conditional section. -/
def conditionalEnd? : List Char → Option Nat
  | ']' :: cs => closingBracket? 1 cs
  | _ => none

/-- The length of the end of a marked section. -/
def sectionEnd? : List Char → Option Nat
  | ']' :: cs =>
    let blanks := cs.takeWhile isBlank
    match cs.drop blanks.length with
    | ']' :: cs => closingBracket? (blanks.length + 2) cs
    | _ => none
  | _ => none

/-! ## Start tags -/

/-- Whether a character may stand in a tag name. -/
def isNameChar (c : Char) : Bool :=
  c != '\t' && c != '\n' && c != '\r' && c != '\x0C' && c != ' ' && c != '/' && c != '>' &&
    c != '\x00'

/-- Whether a character may begin the name of an attribute. -/
def isAttributeStart (c : Char) : Bool :=
  !isBlank c && c != '/' && c != '>'

/-- Whether a character may continue the name of an attribute. -/
def isAttributeNameChar (c : Char) : Bool :=
  !isBlank c && c != '/' && c != '=' && c != '>'

/-- Whether a character may stand in a value without quotes. -/
def isBareChar (c : Char) : Bool :=
  !isBlank c && c != '>'

/-- Whether an attribute may begin behind the given character. -/
def mayPrecedeAttribute (c : Char) : Bool :=
  c == '\'' || c == '"' || c == '/' || isBlank c

/-- The blanks and slashes at the front of a text; a slash in front of the closing bracket does
not belong to them. -/
def separators : List Char → List Char
  | [] => []
  | c :: cs =>
    if isBlank c || (c == '/' && cs.head? != some '>') then c :: separators cs else []

/-- A value as it is read: the characters it takes with its equals sign, and the value itself. -/
structure RawValue where
  length : Nat
  value : List Char
  deriving DecidableEq, Repr

/-- The value behind the given number of characters, if a quoted or bare one stands there. -/
def valueAt? (before : Nat) (cs : List Char) : Option RawValue :=
  match cs with
  | '\'' :: cs' => quoted '\'' cs'
  | '"' :: cs' => quoted '"' cs'
  | cs =>
    let bare := cs.takeWhile isBareChar
    some ⟨before + bare.length, bare⟩
where
  /-- The value up to the closing quote. -/
  quoted (quote : Char) (cs : List Char) : Option RawValue :=
    let inside := cs.takeWhile (· != quote)
    if (cs.drop inside.length).isEmpty then none
    else some ⟨before + inside.length + 2, inside⟩

/-- The equals sign and the value at the front of a text. A quote that is never closed cannot begin
a value: then the value is empty if a blank stands before the quote, or begins with the last of
several equals signs. -/
def attributeValue? (cs : List Char) : Option RawValue :=
  let blanks := cs.takeWhile isBlank
  let signs := (cs.drop blanks.length).takeWhile (· == '=')
  if signs.isEmpty then none
  else
    let before := blanks.length + signs.length
    let behind := (cs.drop before).takeWhile isBlank
    match valueAt? (before + behind.length) (cs.drop (before + behind.length)) with
    | some v => some v
    | none =>
      if !behind.isEmpty then some ⟨before + behind.length - 1, []⟩
      else if 2 ≤ signs.length then valueAt? (before - 1) (cs.drop (before - 1))
      else none

/-- The attributes of a tag, in order, with the characters they take. -/
structure RawAttributes where
  attributes : List (List Char × Option (List Char))
  length : Nat
  deriving DecidableEq, Repr

/-- Reads attributes as long as one may begin, after passing over the `skip` characters of the last
one. `before` is the character in front; the attributes so far stand in reverse. -/
def attributesFrom (done : List (List Char × Option (List Char))) (length : Nat) (before : Char) :
    (skip : Nat) → List Char → RawAttributes
  | _, [] => ⟨done.reverse, length⟩
  | skip + 1, c :: cs => attributesFrom done length c skip cs
  | 0, c :: cs =>
    if mayPrecedeAttribute before && isAttributeStart c then
      let name := c :: cs.takeWhile isAttributeNameChar
      let behind := cs.drop (name.length - 1)
      let value := attributeValue? behind
      let valueLength := (value.map RawValue.length).getD 0
      let blanks := separators (behind.drop valueLength)
      let used := name.length + valueLength + blanks.length
      attributesFrom ((name, value.map RawValue.value) :: done) (length + used) c (used - 1) cs
    else ⟨done.reverse, length⟩

/-- An attribute with its name in lower case and the references of its value replaced. An attribute
without a value is empty. -/
def decodeAttribute : List Char × Option (List Char) → Except ReadError (String × String)
  | (name, value) => do
    let v ← decodeValue (value.getD [])
    return (String.ofList (lower name), String.ofList v)

/-- Reads a start tag. It ends at a bracket behind its attributes; if something else stands there,
what was read is text, unless a letter, a slash or an equals sign may still belong to the tag. -/
def startTag (cs : List Char) : Except ReadError Reading :=
  let name := (cs.drop 1).takeWhile isNameChar
  let behind := cs.drop (1 + name.length)
  let blanks := separators behind
  let raw := attributesFrom [] 0 ((blanks.getLast?).getD ((name.getLast?).getD '<')) 0
    (behind.drop blanks.length)
  let length := 1 + name.length + blanks.length + raw.length
  let tag := String.ofList (lower name)
  match cs.drop length with
  | '>' :: _ => do
    let attributes ← raw.attributes.mapM decodeAttribute
    return .found [.startTag tag attributes] (length + 1)
  | '/' :: '>' :: _ => do
    let attributes ← raw.attributes.mapM decodeAttribute
    return .found [.emptyTag tag attributes] (length + 2)
  | [] => .ok .incomplete
  | c :: _ =>
    if c.isAlpha || c == '=' || c == '/' then .ok .incomplete
    else do
      let _ ← raw.attributes.mapM decodeAttribute
      return .found [.text (cs.take length)] length

/-! ## End tags -/

/-- Whether a character may stand in the name of a plain end tag. -/
def isEndNameChar (c : Char) : Bool :=
  c.isAlphanum || c == '-' || c == '.' || c == ':' || c == '_'

/-- The name and the length of an end tag that holds a plain name and blanks only. -/
def plainEndTag? (cs : List Char) : Option (List Char × Nat) :=
  let blanks := (cs.drop 2).takeWhile isBlank
  let behind := cs.drop (2 + blanks.length)
  match behind with
  | c :: _ =>
    if c.isAlpha then
      let name := behind.takeWhile isEndNameChar
      (closingBracket? (2 + blanks.length + name.length) (behind.drop name.length)).map
        fun n => (name, n)
    else none
  | [] => none

/-- The place behind the next closing bracket, looking from the given place on. -/
def bracketAfter? (place : Nat) (cs : List Char) : Option Nat :=
  ((cs.drop place).findIdx? (· == '>')).map fun n => place + n + 1

/-- Reads an end tag. Without a name it is a comment, or nothing if it is empty. -/
def endTag (cs : List Char) : Reading :=
  match bracketAfter? 1 cs with
  | none => .incomplete
  | some bracket =>
    match plainEndTag? cs with
    | some (name, length) => .found [.endTag (String.ofList (lower name))] length
    | none =>
      match cs.drop 2 with
      | '>' :: _ => .found [] 3
      | c :: cs' =>
        if c.isAlpha then
          let name := (c :: cs').takeWhile isNameChar
          let blanks := separators (cs.drop (2 + name.length))
          match bracketAfter? (2 + name.length + blanks.length) cs with
          | some length => .found [.endTag (String.ofList (lower name))] length
          | none => .incomplete
        else .found [.comment ((cs.drop 2).take (bracket - 3))] bracket
      | [] => .incomplete

/-! ## Comments and declarations -/

/-- Reads a comment. -/
def comment (cs : List Char) : Reading :=
  match search commentEnd? (cs.drop 4) with
  | some (place, length) => .found [.comment ((cs.drop 4).take place)] (4 + place + length)
  | none => .incomplete

/-- Reads a processing instruction. -/
def instruction (cs : List Char) : Reading :=
  match bracketAfter? 2 cs with
  | some length => .found [.instruction ((cs.drop 2).take (length - 3))] length
  | none => .incomplete

/-- Whether a character may stand in the name of a marked section. -/
def isSectionChar (c : Char) : Bool :=
  c.isAlphanum || c == '-' || c == '_' || c == '.'

/-- The token of a marked section. -/
def sectionToken (s : List Char) : Token :=
  if (s.take 6).map Char.toUpper = "CDATA[".toList then .cdata (s.drop 6) else .declaration s

/-- Reads a marked section, which begins with `<![`. -/
def markedSection (cs : List Char) : Except ReadError Reading :=
  let inside := cs.drop 3
  match inside with
  | [] => .ok .incomplete
  | c :: _ =>
    if !c.isAlpha then .error .rejected
    else
      let name := inside.takeWhile isSectionChar
      let behind := inside.drop name.length
      if (behind.dropWhile isBlank).isEmpty then .ok .incomplete
      else
        let kind := String.ofList (name.map Char.toLower)
        let finish (found : Option (Nat × Nat)) : Reading :=
          match found with
          | some (place, length) => .found [sectionToken (inside.take place)] (3 + place + length)
          | none => .incomplete
        if ["temp", "cdata", "ignore", "include", "rcdata"].contains kind then
          .ok (finish (search sectionEnd? inside))
        else if ["if", "else", "endif"].contains kind then
          .ok (finish (search conditionalEnd? inside))
        else .error .rejected

/-- Reads what begins with `<!` and is no comment. -/
def declaration (cs : List Char) : Except ReadError Reading :=
  if (cs.drop 2).head? = some '[' then markedSection cs
  else if (cs.take 9).map Char.toLower = "<!doctype".toList then
    match bracketAfter? 9 cs with
    | some length => .ok (.found [.doctype ((cs.drop 10).take (length - 11))] length)
    | none => .ok .incomplete
  else
    match bracketAfter? 2 cs with
    | some length => .ok (.found [.comment ((cs.drop 2).take (length - 3))] length)
    | none => .ok .incomplete

/-! ## References -/

/-- What an ampersand in text leads to. -/
inductive AmpersandReading where
  /-- Text that stands for the first `length` characters. -/
  | text (s : List Char) (length : Nat)
  /-- Reading stops behind the first `length` characters, for which `s` stands. -/
  | stop (s : List Char) (length : Nat)
  deriving DecidableEq, Repr

/-- A numeric reference at the front of a text. It has to be followed by a character that is no
hexadecimal digit; a semicolon belongs to it. Anything else stops the reading: behind the number
sign if a semicolon follows somewhere, in front of the ampersand otherwise. -/
def numericReference (cs : List Char) : Except ReadError AmpersandReading :=
  let inside := cs.drop 2
  let stop : AmpersandReading := if cs.contains ';' then .stop ['&', '#'] 2 else .stop [] 0
  let finish (number : Except ReadError Nat) (digits : Nat) : Except ReadError AmpersandReading :=
    match (inside.drop digits).head? with
    | none => .ok stop
    | some c =>
      if isHexDigit c then .ok stop
      else do
        let n ← number
        return .text [textChar n] (2 + digits + if c = ';' then 1 else 0)
  match inside with
  | x :: cs' =>
    if x = 'x' || x = 'X' then
      let ds := cs'.takeWhile isHexDigit
      if ds.isEmpty then .ok stop else finish (.ok (hexNumber ds)) (1 + ds.length)
    else
      let ds := inside.takeWhile Char.isDigit
      if ds.isEmpty then .ok stop else finish (decimalNumber ds) ds.length
  | [] => .ok stop

/-- Whether a character may stand in the name of a reference in text. -/
def isReferenceChar (c : Char) : Bool :=
  c.isAlphanum || c == '-' || c == '.'

/-- The name of a reference that the text ends with: it ends before its last hyphen or point. -/
def nameBeforeMark? (name : List Char) : Option (List Char) :=
  match name.reverse.dropWhile Char.isAlphanum with
  | _ :: rest => if rest.isEmpty then none else some rest.reverse
  | [] => none

/-- Reads a reference in text; `final` says that no more text follows. -/
def reference (final : Bool) (cs : List Char) : Except ReadError AmpersandReading :=
  match cs.drop 1 with
  | '#' :: _ => numericReference cs
  | c :: rest =>
    if c.isAlpha then
      let name := (c :: rest).takeWhile isReferenceChar
      match cs.drop (1 + name.length) with
      | d :: _ => .ok (.text (textReference name) (1 + name.length + if d = ';' then 1 else 0))
      | [] =>
        match nameBeforeMark? name with
        | some name => .ok (.text (textReference name) (1 + name.length))
        | none => .ok (.stop [] (if final && rest.isEmpty then 1 else 0))
    else .ok (.text ['&'] 1)
  | [] => .ok (.stop [] 0)

end SealedPage.Html
