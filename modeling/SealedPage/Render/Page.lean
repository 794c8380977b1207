import SealedPage.Html.Builder
import SealedPage.Html.Writer
import SealedPage.Render.Failure

/-!
# Changing a page

The two ways in which a render changes its page: the body takes the compiled fragment,
`materialize`, or a placeholder, `showPlaceholder`. A fragment that cannot be read leaves the page
as it was.
-/

namespace SealedPage.Render

open Html

/-- An element with one class that holds one text. -/
def textElement (name cssClass content : String) : Node :=
  .element name [("class", cssClass)] [.text .plain content]

/-- The element that tells the user that the document was verified. -/
def noteElement (content : String) : Node :=
  textElement "div" "flo-note" content

/-- The element that stands in place of a document. -/
def placeholderElement (message : String) : Node :=
  textElement "pre" "flo-error" message

/-- The nodes that follow a fragment: one note, unless its text is absent or empty. -/
def noteNodes (note : Option String) : List Node :=
  match note with
  | some content => if content.isEmpty then [] else [noteElement content]
  | none => []

/-- Puts a fragment and its note into the body. -/
def materialize (page : Document) (fragment : String) (note : Option String) :
    Except Failure Document :=
  match page.body? with
  | none => .error .noBody
  | some _ =>
    match Document.ofString fragment with
    | .error _ => .error .unreadableFragment
    | .ok nodes =>
      match page.replaceBody? (nodes ++ noteNodes note) with
      | some page => .ok page
      | none => .error .noBody

/-- Puts a placeholder into the body. -/
def showPlaceholder (page : Document) (message : String) : Except Failure Document :=
  match page.replaceBody? [placeholderElement message] with
  | some page => .ok page
  | none => .error .noBody

end SealedPage.Render
