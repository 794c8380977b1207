/-!
# HTML trees

The tree of a document, `Document`: elements with attributes and children, and strings of several
kinds, `Node`. Elements are searched for in the order of the text, `findById?` and `body?`. Reading
a tree never changes it; the one change there is replaces the children of the first body element,
`replaceBody?`.
-/

namespace SealedPage.Html

/-- What a string in a tree is. Text inside certain elements has a kind of its own, so that it does
not count as content of what is around them. -/
inductive TextKind where
  | plain
  | script
  | style
  | template
  | rubyText
  | rubyParenthesis
  | comment
  | cdata
  | doctype
  | instruction
  | declaration
  deriving DecidableEq, Repr

/-- A node of a tree. -/
inductive Node where
  | text (kind : TextKind) (content : String)
  | element (name : String) (attributes : List (String × String)) (children : List Node)
  deriving Repr, Inhabited

/-- The top-level nodes of a document, in order. -/
abbrev Document := List Node

/-- The elements that have no content. -/
def voidElements : List String :=
  ["area", "base", "basefont", "bgsound", "br", "col", "command", "embed", "frame", "hr", "image",
    "img", "input", "isindex", "keygen", "link", "menuitem", "meta", "nextid", "param", "source",
    "spacer", "track", "wbr"]

/-- Whether an element has no content. -/
def isVoid (name : String) : Bool :=
  voidElements.contains name

/-- The kind of text that an element sets for everything inside it. -/
def ownTextKind? : String → Option TextKind
  | "script" => some .script
  | "style" => some .style
  | "template" => some .template
  | "rt" => some .rubyText
  | "rp" => some .rubyParenthesis
  | _ => none

/-! ## Finding elements -/

mutual

/-- The first element in document order, from a node on, that has the property. -/
def Node.find? (p : String → List (String × String) → Bool) : Node → Option Node
  | .text _ _ => none
  | .element name attributes children =>
    if p name attributes then some (.element name attributes children)
    else findIn? p children

/-- The first element in document order that has the property. -/
def findIn? (p : String → List (String × String) → Bool) : List Node → Option Node
  | [] => none
  | n :: ns =>
    match n.find? p with
    | some found => some found
    | none => findIn? p ns

end

/-- The first element whose `id` is the given one. -/
def Document.findById? (d : Document) (id : String) : Option Node :=
  findIn? (fun _ attributes => attributes.lookup "id" == some id) d

/-- The first body element. -/
def Document.body? (d : Document) : Option Node :=
  findIn? (fun name _ => name == "body") d

/-! ## Text of an element -/

/-- The string that stands alone in an element, directly or inside elements that stand alone. -/
def Node.onlyText? : Node → Option String
  | .text _ _ => none
  | .element _ _ [.text _ content] => some content
  | .element _ _ [.element name attributes children] =>
    (Node.element name attributes children).onlyText?
  | .element _ _ _ => none

/-- Whether text of a kind counts as content of an element: an element with a kind of text of its
own holds that kind only, any other holds plain text and marked sections. -/
def countsIn (name : String) (kind : TextKind) : Bool :=
  match ownTextKind? name with
  | some own => kind == own
  | none => kind == .plain || kind == .cdata

mutual

/-- The strings of the counted kinds in a node, in document order, before those in `rest`. -/
def Node.texts (counts : TextKind → Bool) (rest : List String) : Node → List String
  | .text kind content => if counts kind then content :: rest else rest
  | .element _ _ children => textsIn counts rest children

/-- The strings of the counted kinds in a list of nodes, before those in `rest`. -/
def textsIn (counts : TextKind → Bool) (rest : List String) : List Node → List String
  | [] => rest
  | n :: ns => n.texts counts (textsIn counts rest ns)

end

/-- The text of an element: the string that stands alone in it, of whatever kind, or else all the
text that counts as its content. -/
def Node.textContent : Node → String
  | .text _ content => content
  | .element name attributes children =>
    match (Node.element name attributes children).onlyText? with
    | some content => content
    | none => String.join (textsIn (countsIn name) [] children)

/-! ## Replacing the content of the body -/

mutual

/-- The node with the children of its first body element replaced, if it has one. -/
def Node.replaceBody? (content : List Node) : Node → Option Node
  | .text _ _ => none
  | .element name attributes children =>
    if name = "body" then some (.element name attributes content)
    else (replaceBodyIn? content children).map (.element name attributes ·)

/-- The nodes with the children of the first body element replaced, if there is one. -/
def replaceBodyIn? (content : List Node) : List Node → Option (List Node)
  | [] => none
  | n :: ns =>
    match n.replaceBody? content with
    | some changed => some (changed :: ns)
    | none => (replaceBodyIn? content ns).map (n :: ·)

end

/-- The document with the children of its first body element replaced, if it has one. -/
def Document.replaceBody? (d : Document) (content : List Node) : Option Document :=
  replaceBodyIn? content d

end SealedPage.Html
