import SealedPage.Text.Blank
import SealedPage.Flo.Rule

/-!
# Tags

The grammar of FLO tags, `Tag`, the tag at the front of a text, `Tag.atHead?`, and the attributes in
the characters of a tag, `findAttributes`. In every place at most one reading is possible, so the
longest stretch of blanks, of a name or of attributes is always the right one.
-/

namespace SealedPage.Flo

open Text

/-- The namespace of FLO tags. -/
def tagNamespace : List Char := "flo:".toList

/-- Whether a character may begin a tag name. -/
def isTagStart (c : Char) : Bool :=
  c.isAlpha

/-- Whether a character may continue a tag name. -/
def isTagChar (c : Char) : Bool :=
  c.isAlphanum || c == '_' || c == '-'

/-- Whether a character may stand in an attribute name. -/
def isAttributeChar (c : Char) : Bool :=
  !isBlank c && c != '<' && c != '>' && c != '"' && c != '/' && c != '='

/-- Whether a character may stand in an attribute value. -/
def isValueChar (c : Char) : Bool :=
  c != '"' && c != '<'

/-- A value as it is written: the blanks around the equals sign, and the text in the quotes. -/
structure AttributeValue where
  before : List Char
  after : List Char
  text : List Char
  deriving DecidableEq, Repr

/-- The characters of a value with its equals sign and quotes. -/
def AttributeValue.source (v : AttributeValue) : List Char :=
  v.before ++ '=' :: (v.after ++ '"' :: (v.text ++ ['"']))

/-- The value at the front of a text, and the rest. -/
def AttributeValue.atHead? (cs : List Char) : Option (AttributeValue × List Char) :=
  let before := cs.takeWhile isBlank
  match cs.dropWhile isBlank with
  | '=' :: cs =>
    let after := cs.takeWhile isBlank
    match cs.dropWhile isBlank with
    | '"' :: cs =>
      let text := cs.takeWhile isValueChar
      match cs.dropWhile isValueChar with
      | '"' :: cs => some (⟨before, after, text⟩, cs)
      | _ => none
    | _ => none
  | _ => none

/-- An attribute as it is written: its name, and its value if it has one. -/
structure WrittenAttribute where
  name : List Char
  value : Option AttributeValue
  deriving DecidableEq, Repr

namespace WrittenAttribute

/-- The characters of an attribute. -/
def source (a : WrittenAttribute) : List Char :=
  a.name ++ (a.value.map AttributeValue.source).getD []

/-- The name and the value; without a value the attribute is empty. -/
def pair (a : WrittenAttribute) : String × String :=
  (String.ofList a.name, String.ofList ((a.value.map AttributeValue.text).getD []))

/-- The attribute at the front of a text, and the rest. A value that is not complete does not
belong to it. -/
def atHead? (cs : List Char) : Option (WrittenAttribute × List Char) :=
  match cs.takeWhile isAttributeChar with
  | [] => none
  | name =>
    let cs := cs.dropWhile isAttributeChar
    match AttributeValue.atHead? cs with
    | some (v, rest) => some (⟨name, some v⟩, rest)
    | none => some (⟨name, none⟩, cs)

end WrittenAttribute

/-- Reads attributes with blanks in front of each, after those read so far in reverse, and gives
the rest. Every round takes at least two characters, none of them an opening bracket, so `fuel` may
be the number of characters before the next one. -/
def attributesFrom (done : List (List Char × WrittenAttribute)) :
    (fuel : Nat) → List Char → List (List Char × WrittenAttribute) × List Char
  | 0, cs => (done.reverse, cs)
  | fuel + 1, cs =>
    match cs.takeWhile isBlank with
    | [] => (done.reverse, cs)
    | blanks =>
      match WrittenAttribute.atHead? (cs.dropWhile isBlank) with
      | some (a, rest) => attributesFrom ((blanks, a) :: done) fuel rest
      | none => (done.reverse, cs)

/-- A tag as it is written: whether it closes, its name, its attributes with the blanks in front of
each, the blanks before the end, and whether it is marked as empty. -/
structure Tag where
  closing : Bool
  name : List Char
  attributes : List (List Char × WrittenAttribute)
  blanks : List Char
  selfClosing : Bool
  deriving DecidableEq, Repr

namespace Tag

/-- The characters of the attributes of a tag. -/
def attributeSource (t : Tag) : List Char :=
  t.attributes.flatMap fun (blanks, a) => blanks ++ a.source

/-- The characters of a tag. -/
def source (t : Tag) : List Char :=
  '<' :: ((if t.closing then ['/'] else []) ++ tagNamespace ++ t.name ++ t.attributeSource ++
    t.blanks ++ (if t.selfClosing then ['/'] else []) ++ ['>'])

/-- The number of characters of a tag. -/
def length (t : Tag) : Nat :=
  t.source.length

/-- Reads the end of a tag: blanks, a slash that marks it as empty, and the bracket. -/
def endAtHead? (cs : List Char) : Option (List Char × Bool) :=
  match cs.dropWhile isBlank with
  | '>' :: _ => some (cs.takeWhile isBlank, false)
  | '/' :: '>' :: _ => some (cs.takeWhile isBlank, true)
  | _ => none

/-- Reads a tag from its name on. No tag reaches over an opening bracket. -/
def nameAtHead? (closing : Bool) (cs : List Char) : Option Tag :=
  match cs with
  | c :: _ =>
    if isTagStart c then
      let name := cs.takeWhile isTagChar
      let cs := cs.dropWhile isTagChar
      let (attributes, cs) := attributesFrom [] (cs.takeWhile (· != '<')).length cs
      (endAtHead? cs).map fun (blanks, selfClosing) =>
        ⟨closing, name, attributes, blanks, selfClosing⟩
    else none
  | [] => none

/-- The tag at the front of a text. -/
def atHead? : List Char → Option Tag
  | '<' :: '/' :: 'f' :: 'l' :: 'o' :: ':' :: cs => nameAtHead? true cs
  | '<' :: 'f' :: 'l' :: 'o' :: ':' :: cs => nameAtHead? false cs
  | _ => none

end Tag

/-- The attributes found so far, in reverse, with the one at the front of a text, and how many
characters behind the first one belong to it. -/
def takeAttribute (done : List (String × String)) (cs : List Char) :
    List (String × String) × Nat :=
  match WrittenAttribute.atHead? cs with
  | some (a, _) => (a.pair :: done, a.source.length - 1)
  | none => (done, 0)

/-- Finds attributes anywhere in a text, from left to right: what cannot begin an attribute is
passed over. The first `skip` characters belong to the attribute found last. -/
def findAttributesFrom (done : List (String × String)) : (skip : Nat) → List Char → Attributes
  | _, [] => done.reverse
  | skip + 1, _ :: cs => findAttributesFrom done skip cs
  | 0, c :: cs =>
    let taken := takeAttribute done (c :: cs)
    findAttributesFrom taken.1 taken.2 cs

/-- The attributes that a text holds, in order. -/
def findAttributes (cs : List Char) : Attributes :=
  findAttributesFrom [] 0 cs

end SealedPage.Flo
