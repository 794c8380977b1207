import SealedPage.Flo.Anomaly
import SealedPage.Render.Failure

/-!
# Outcomes

What a render came to, an `Outcome`: a document with its anomalies, or one kind of failure and
nothing else. An outcome says for which render it is.
-/

namespace SealedPage.Render

open Fields

/-- What a render came to. -/
inductive Result where
  | rendered (html : String) (anomalies : List Flo.Anomaly)
  | aborted (failure : FailureKind)
  deriving DecidableEq, Repr

namespace Result

/-- The state of the page as its user sees it. -/
def state : Result → PageState
  | rendered _ _ => .rendered
  | aborted failure => failure.state

/-- The anomalies of a rendered document. -/
def anomalies : Result → List Flo.Anomaly
  | rendered _ anomalies => anomalies
  | aborted _ => []

/-- Whether a document was rendered. -/
def isRendered : Result → Bool
  | rendered _ _ => true
  | aborted _ => false

/-- A result from its parts: a document and its anomalies, or a failure and neither. -/
def ofParts (rendered : Bool) (failure : Option FailureKind) (html : Option String)
    (anomalies : List Flo.Anomaly) : Checked Result :=
  match rendered, failure, html with
  | true, some _, _ => .fail (.rule "A rendered outcome can not carry a failure")
  | true, none, none => .fail (.rule "A rendered outcome must carry its html")
  | true, none, some html => .ok (.rendered html anomalies)
  | false, none, _ => .fail (.rule "An aborted outcome requires a failure kind")
  | false, some failure, html =>
    if html.isNone && anomalies.isEmpty then .ok (.aborted failure)
    else .fail (.rule "An aborted outcome can not carry compiled output")

end Result

/-- The result of the render with the given name. -/
structure Outcome where
  renderId : String
  result : Result
  deriving DecidableEq, Repr

namespace Outcome

/-- The state of the page as its user sees it. -/
def state (o : Outcome) : PageState :=
  o.result.state

/-- The outcome of a render, which must have a name. -/
def make (renderId : String) (result : Result) : Checked Outcome :=
  ((nonemptyText (.str renderId)).under "render_id").map (⟨·, result⟩)

/-- The fields of an outcome. -/
def fieldNames : List String :=
  ["render_id", "rendered", "failure", "html", "anomalies"]

/-- An outcome from the fields of a record. -/
def ofFields (members : Members) : Checked Outcome :=
  let parts :=
    (fun _ renderId rendered failure html anomalies =>
        (renderId, Result.ofParts rendered failure html anomalies))
      <$> onlyKnown members fieldNames
      <*> required members "render_id" nonemptyText
      <*> required members "rendered" truth
      <*> withDefault members "failure" none (nullable (listed FailureKind.ofName?))
      <*> withDefault members "html" none (nullable text)
      <*> withDefault members "anomalies" [] (listOf (record Flo.Anomaly.ofFields))
  parts.andThen fun (renderId, result) => result.map (⟨renderId, ·⟩)

end Outcome

end SealedPage.Render
