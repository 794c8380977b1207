import SealedPage.Text.Blank
import SealedPage.Text.Case
import SealedPage.Html.Node

/-!
# Writing trees

A document is written, `Document.write`: elements with their attributes sorted by name, void
elements without content as `<br/>`, and text with its three markup characters as references. A
document declares that it is written in UTF-8, whatever it declared before, `declareEncoding`.
-/

namespace SealedPage.Html

open Text

/-- A character of text or of a value; the three that could begin or end markup are references. -/
def escapeChar (c : Char) : List Char :=
  if c = '&' then "&amp;".toList
  else if c = '<' then "&lt;".toList
  else if c = '>' then "&gt;".toList
  else [c]

/-- Text with its markup characters as references. -/
def escape (s : String) : String :=
  String.ofList (s.toList.flatMap escapeChar)

/-- A value in double quotes, or in single ones if it holds a double but no single quote; if it
holds both, the double ones are references. -/
def quoteValue (value : String) : String :=
  let s := (escape value).toList
  if s.contains '"' then
    if s.contains '\'' then
      "\"" ++ String.ofList (s.flatMap fun c => if c = '"' then "&quot;".toList else [c]) ++ "\""
    else "'" ++ String.ofList s ++ "'"
  else "\"" ++ String.ofList s ++ "\""

/-! ## The declared encoding -/

/-- The encoding that documents are written in. -/
def outputEncoding : List Char := "utf-8".toList

/-- Whether a parameter may begin behind the character `c`: at the front of a line, behind a
semicolon, and behind blanks that stand at such a place. Blanks behind anything else begin none:
`text/html charset=a` names no encoding, `text/html; charset=a` does. -/
def mayBeginParameter (before : Bool) (c : Char) : Bool :=
  c == ';' || c == '\n' || (before && isBlank c)

/-- Replaces the encodings that a content type names, after passing over `skip` characters; the
text so far stands in reverse, and `bound` says that a parameter may begin here. -/
def replaceCharsetFrom (done : List Char) (bound : Bool) : (skip : Nat) → List Char → List Char
  | _, [] => done.reverse
  | skip + 1, _ :: cs => replaceCharsetFrom done false skip cs
  | 0, c :: cs =>
    if bound && "charset=".toList.isPrefixOf (c :: cs) then
      let old := (cs.drop 7).takeWhile (· != ';')
      replaceCharsetFrom (outputEncoding.reverse ++ ("charset=".toList.reverse ++ done)) false
        (7 + old.length) cs
    else replaceCharsetFrom (c :: done) (mayBeginParameter bound c) 0 cs

/-- A content type with the encoding it names replaced. -/
def replaceCharset (value : String) : String :=
  String.ofList (replaceCharsetFrom [] true 0 value.toList)

/-- The attributes as they are written: a declaration of the encoding says UTF-8. -/
def declareEncoding (name : String) (attributes : List (String × String)) :
    List (String × String) :=
  if name != "meta" then attributes
  else if (attributes.lookup "charset").isSome then
    attributes.map fun (n, v) => (n, if n = "charset" then String.ofList outputEncoding else v)
  else
    match attributes.lookup "content", attributes.lookup "http-equiv" with
    | some _, some equiv =>
      if lowerString equiv = "content-type" then
        attributes.map fun (n, v) => (n, if n = "content" then replaceCharset v else v)
      else attributes
    | _, _ => attributes

/-- Writes the attributes behind the text `out`, sorted by name. -/
def writeAttributes (out : String) (attributes : List (String × String)) : String :=
  (attributes.mergeSort fun a b => decide (a.1 ≤ b.1)).foldl
    (fun out (n, v) => out ++ " " ++ n ++ "=" ++ quoteValue v) out

/-! ## Nodes -/

/-- A string as it is written; text directly inside a raw element is not escaped. -/
def writeText (parent : String) (kind : TextKind) (content : String) : String :=
  match kind with
  | .comment => "<!--" ++ content ++ "-->"
  | .cdata => "<![CDATA[" ++ content ++ "]]>"
  | .doctype => "<!DOCTYPE " ++ content ++ ">\n"
  | .instruction => "<?" ++ content ++ ">"
  | .declaration => "<?" ++ content ++ "?>"
  | _ => if parent = "script" || parent = "style" then content else escape content

mutual

/-- Writes a node behind the text `out`; `parent` is the name of the element around it. -/
def Node.writeTo (parent : String) (out : String) : Node → String
  | .text kind content => out ++ writeText parent kind content
  | .element name attributes children =>
    let start := writeAttributes (out ++ "<" ++ name) (declareEncoding name attributes)
    match children with
    | [] => if isVoid name then start ++ "/>" else start ++ "></" ++ name ++ ">"
    | children => writeAll name (start ++ ">") children ++ "</" ++ name ++ ">"

/-- Writes nodes behind the text `out`. -/
def writeAll (parent : String) (out : String) : List Node → String
  | [] => out
  | n :: ns => writeAll parent (n.writeTo parent out) ns

end

/-- The text of a document. -/
def Document.write (d : Document) : String :=
  writeAll "" "" d

end SealedPage.Html
