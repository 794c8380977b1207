import SealedPage.Html.Node
import SealedPage.Html.Lexer

/-!
# Building the tree

Tokens are put together to a tree, `Document.ofTokens`, with a stack of open elements, `Builder`. An
end tag closes everything up to the nearest open element of its name; one without such an element is
passed over. No element is implied, and none closes another by its start. A void element is closed
where it is opened, and so is one whose tag says that it is empty: `<br>a<br/>b` has two breaks, and
no text inside of them.
-/

namespace SealedPage.Html

open Text

/-- Whether a character is a space of ASCII. -/
def isAsciiSpace (c : Char) : Bool :=
  c == ' ' || c == '\n' || c == '\t' || c == '\x0C' || c == '\r'

/-- A string made of spaces alone becomes one line feed if it holds one, and one space otherwise. -/
def collapseSpace (s : List Char) : List Char :=
  if s.all isAsciiSpace then if s.contains '\n' then ['\n'] else [' '] else s

/-- Whether white space inside an element is kept. -/
def keepsSpace (name : String) : Bool :=
  name == "pre" || name == "textarea"

/-! ## Attributes -/

/-- The attributes whose value is a list of words, in any element. -/
def wordAttributes : List String :=
  ["class", "accesskey", "dropzone"]

/-- The attributes whose value is a list of words, by element. -/
def elementWordAttributes : String → List String
  | "a" | "link" => ["rel", "rev"]
  | "td" | "th" => ["headers"]
  | "form" => ["accept-charset"]
  | "object" => ["archive"]
  | "area" => ["rel"]
  | "icon" => ["sizes"]
  | "iframe" => ["sandbox"]
  | "output" => ["for"]
  | _ => []

/-- The words of a value with one space between them. -/
def joinWords (value : String) : String :=
  String.intercalate " " ((words value.toList).map String.ofList)

/-- A value as it stands in the tree. -/
def normalizeValue (element name value : String) : String :=
  if wordAttributes.contains name || (elementWordAttributes element).contains name then
    joinWords value
  else value

/-- Writes an attribute: a known name keeps its place and takes the new value. -/
def setAttribute (name value : String) : List (String × String) → List (String × String)
  | [] => [(name, value)]
  | (n, v) :: rest =>
    if n = name then (n, value) :: rest else (n, v) :: setAttribute name value rest

/-- The attributes of an element: of several with one name the last value counts. -/
def elementAttributes (element : String) (attributes : List (String × String)) :
    List (String × String) :=
  attributes.foldl (fun done (n, v) => setAttribute n (normalizeValue element n v) done) []

/-! ## The stack of open elements -/

/-- An open element, with its children in reverse, whether white space is kept inside it, and the
kind of text inside it. -/
structure Frame where
  name : String
  attributes : List (String × String)
  children : List Node
  keepsSpace : Bool
  textKind : TextKind
  deriving Repr

/-- The element of a frame. -/
def Frame.close (f : Frame) : Node :=
  .element f.name f.attributes f.children.reverse

/-- The state of building: the open elements, innermost first, the nodes outside all of them in
reverse, the text not yet put into the tree in reverse, and the void elements for each of which one
end tag is still to be passed over. -/
structure Builder where
  frames : List Frame := []
  top : List Node := []
  pending : Option (List Char) := none
  closedVoids : List String := []
  deriving Repr

namespace Builder

/-- Appends a node to the innermost open element. -/
def append (b : Builder) (n : Node) : Builder :=
  match b.frames with
  | [] => { b with top := n :: b.top }
  | f :: fs => { b with frames := { f with children := n :: f.children } :: fs }

/-- Whether white space is kept here. -/
def keepsSpace (b : Builder) : Bool :=
  match b.frames with
  | [] => false
  | f :: _ => f.keepsSpace

/-- The kind of text here. -/
def textKind (b : Builder) : TextKind :=
  match b.frames with
  | [] => .plain
  | f :: _ => f.textKind

/-- Appends a string of the given kind. -/
def appendString (b : Builder) (kind : TextKind) (s : List Char) : Builder :=
  b.append (.text kind (String.ofList (if b.keepsSpace then s else collapseSpace s)))

/-- Puts the text read so far into the tree. -/
def flush (b : Builder) : Builder :=
  match b.pending with
  | none => b
  | some s => { b with pending := none }.appendString b.textKind s.reverse

/-- Adds text. -/
def addText (b : Builder) (s : List Char) : Builder :=
  { b with pending := some (s.reverseAux (b.pending.getD [])) }

/-- Adds a node that is a string but no text. -/
def addString (b : Builder) (kind : TextKind) (s : List Char) : Builder :=
  b.flush.appendString kind s

/-- Opens an element. -/
def openElement (b : Builder) (name : String) (attributes : List (String × String)) : Builder :=
  let b := b.flush
  let frame : Frame :=
    { name, attributes := elementAttributes name attributes, children := []
      keepsSpace := b.keepsSpace || Html.keepsSpace name
      textKind := (ownTextKind? name).getD b.textKind }
  { b with frames := frame :: b.frames }

/-- Closes the innermost open element. -/
def pop (b : Builder) : Builder :=
  match b.frames with
  | [] => b
  | f :: fs => { b with frames := fs }.append f.close

/-- Closes the open elements up to and including the nearest one of the name. -/
def popTo (name : String) (b : Builder) : (depth : Nat) → Builder
  | 0 => b
  | depth + 1 =>
    match b.frames with
    | [] => b
    | f :: _ => if f.name = name then b.pop else popTo name b.pop depth

/-- Closes the nearest open element of the name, if there is one. -/
def closeElement (b : Builder) (name : String) : Builder :=
  let b := b.flush
  if b.frames.any (·.name == name) then popTo name b b.frames.length else b

/-- Takes an end tag, unless it belongs to a void element that is closed already. An end tag that is
taken divides the text around it even if it closes nothing; one that is passed over does not. -/
def endTag (b : Builder) (name : String) : Builder :=
  if b.closedVoids.contains name then { b with closedVoids := b.closedVoids.erase name }
  else b.closeElement name

/-- Takes the next token. A tag that says that its element is empty closes it at once, and leaves
the end tags that are to be passed over as they are. -/
def add (b : Builder) : Token → Builder
  | .startTag name attributes =>
    let b := b.openElement name attributes
    if isVoid name then
      let b := b.closeElement name
      { b with closedVoids := name :: b.closedVoids }
    else b
  | .emptyTag name attributes => (b.openElement name attributes).closeElement name
  | .endTag name => b.endTag name
  | .text s => b.addText s
  | .comment s => b.addString .comment s
  | .doctype s => b.addString .doctype s
  | .instruction s => b.addString .instruction s
  | .cdata s => b.addString .cdata s
  | .declaration s => b.addString .declaration s

/-- Closes everything. -/
def finish (b : Builder) : Document :=
  let b := b.flush
  (b.frames.foldl (fun b _ => b.pop) b).top.reverse

end Builder

/-- The tree that tokens spell. -/
def Document.ofTokens (tokens : List Token) : Document :=
  (tokens.foldl Builder.add {}).finish

/-- The tree of a text. -/
def Document.ofText (s : List Char) : Except ReadError Document :=
  (lex s).map Document.ofTokens

/-- The tree of a string. -/
def Document.ofString (s : String) : Except ReadError Document :=
  Document.ofText s.toList

end SealedPage.Html
