import SealedPage.Render.Outcome

/-!
# Events of a render

What an observer of a render learns, in order, `Event`. Events never carry a failure or its detail:
the state of the page is the most that they tell. The last event, `Event.ofOutcome`, carries the
page as the render left it.
-/

namespace SealedPage.Render

/-- The kind of an event. -/
inductive EventKind where
  | renderStarted
  | renderCompleted
  | renderFailed
  | transportRead
  | signatureVerified
  | documentCompiled
  | anomalyDetected
  | documentMaterialized
  deriving DecidableEq, Repr

namespace EventKind

/-- The name of a kind. -/
def name : EventKind → String
  | renderStarted => "render_started"
  | renderCompleted => "render_completed"
  | renderFailed => "render_failed"
  | transportRead => "transport_read"
  | signatureVerified => "signature_verified"
  | documentCompiled => "document_compiled"
  | anomalyDetected => "anomaly_detected"
  | documentMaterialized => "document_materialized"

/-- All kinds. -/
def all : List EventKind :=
  [renderStarted, renderCompleted, renderFailed, transportRead, signatureVerified, documentCompiled,
    anomalyDetected, documentMaterialized]

/-- The kind of the given name. -/
def ofName? (s : String) : Option EventKind :=
  all.find? fun k => k.name == s

/-- Whether an event of this kind ends a render. -/
def isTerminal : EventKind → Bool
  | renderCompleted | renderFailed => true
  | _ => false

end EventKind

/-- Something that happened in the render with the given name. -/
structure Event where
  renderId : String
  kind : EventKind
  details : Option (List (String × Json.Value)) := none
  deriving Repr

namespace Event

/-- Whether an event ends its render. -/
def isTerminal (e : Event) : Bool :=
  e.kind.isTerminal

/-- A detail of an event. -/
def detail? (e : Event) (name : String) : Option Json.Value :=
  e.details.bind fun members => members.lookup name

/-- The event that reports an anomaly. -/
def ofAnomaly (renderId : String) (a : Flo.Anomaly) : Event where
  renderId := renderId
  kind := .anomalyDetected
  details := some [("anomaly", .str a.kind.name), ("tag", .str a.tag), ("offset", .int a.offset)]

/-- The event that ends the compilation of a document. -/
def compiled (renderId : String) (anomalyCount : Nat) : Event where
  renderId := renderId
  kind := .documentCompiled
  details := some [("anomalies_count", .int anomalyCount)]

/-- The event that ends a render; `document` is the page as the render left it. -/
def ofOutcome (o : Outcome) (document : String) : Event where
  renderId := o.renderId
  kind := if o.result.isRendered then .renderCompleted else .renderFailed
  details := some [("state", .str o.state.name),
    ("anomalies_count", .int o.result.anomalies.length), ("document", .str document)]

end Event

end SealedPage.Render
