import SealedPage.Flo.Fragment
import SealedPage.Log
import SealedPage.Render.Observer
import SealedPage.Render.Page
import SealedPage.Render.Verifier

/-!
# Rendering a page

The one way from an untrusted page to a rendered one, `run`: the transport is read, the signature
over the payload is checked, `authenticate`, the payload is compiled, and the body takes the result.
Each stage of an `attempt` ends the render when it fails, and every render that fails ends in the
same place: one placeholder takes the body, one outcome tells the kind of the failure, and the
detail goes to the log.
-/

namespace SealedPage.Render

/-- Why a render ends early. -/
inductive Abort where
  /-- A stage failed. -/
  | failed (cause : Failure)
  /-- The session that checks signatures holds another key. -/
  | session (cause : SessionError)
  /-- The outcome is refused, as its render has no name. -/
  | refused (problems : List Fields.Problem)
  deriving DecidableEq, Repr

/-- The kind of the failure that an abort counts as. -/
def Abort.kind : Abort → FailureKind
  | failed cause => cause.kind
  | session _ => .runtimeError
  | refused _ => .runtimeError

/-- What a render works on: the page, its observer's state, the events sent so far, and the log. -/
structure Scene (σ : Type) where
  page : Html.Document
  observer : σ
  sent : Array Event := #[]
  log : Array Log.Record := #[]

/-! ## Records of the log -/

/-- The record of an event that the observer did not take. -/
def emitFailed (e : Event) : Log.Record where
  level := .warning
  event := "render_event_emit_failed"
  extra := [("render_id", .str e.renderId), ("event_type", .str e.kind.name)]

/-- The record of an abort. -/
def Abort.record (renderId : String) : Abort → Log.Record
  | failed cause =>
    { level := .warning
      event := "render_aborted"
      extra := [("render_id", .str renderId), ("failure", .str cause.kind.name),
        ("detail", .str cause.message)] }
  | session _ | refused _ =>
    { level := .error
      event := "render_runtime_error"
      extra := [("render_id", .str renderId)] }

/-- The record of a page that takes no placeholder. -/
def placeholderUnavailable (renderId : String) (state : PageState) (cause : Failure) :
    Log.Record where
  level := .error
  event := "placeholder_unavailable"
  extra := [("render_id", .str renderId), ("state", .str state.name),
    ("detail", .str cause.message)]

/-! ## Steps -/

namespace Scene

variable {σ : Type}

/-- Adds a record to the log. -/
def note (s : Scene σ) (r : Log.Record) : Scene σ :=
  { s with log := s.log.push r }

/-- Sends an event. An observer that fails is noted and changes nothing else. -/
def send (s : Scene σ) (o : Observer σ) (e : Event) : Scene σ :=
  let (receipt, observer) := o.emit s.observer e
  let s := { s with observer, sent := s.sent.push e }
  match receipt with
  | .taken => s
  | .failed => s.note (emitFailed e)

/-- Sends events in turn. -/
def sendAll (s : Scene σ) (o : Observer σ) (es : List Event) : Scene σ :=
  es.foldl (fun s e => s.send o e) s

/-- Puts the placeholder for a kind of failure into the page. -/
def placeholder (s : Scene σ) (renderId : String) (k : FailureKind) : Scene σ :=
  match showPlaceholder s.page k.placeholder with
  | .ok page => { s with page }
  | .error e => s.note (placeholderUnavailable renderId k.state e)

end Scene

/-- The bytes of a payload whose signature is good. -/
def authenticate (v : Verifier) (t : Triple) : Except Abort Bytes :=
  match decodeBase64 .payload t.payload with
  | .error e => .error (.failed e)
  | .ok bytes =>
    match v.importKey t.publicKey with
    | (.error (.failed e), _) => .error (.failed e)
    | (.error e, _) => .error (.session e)
    | (.ok k, _) =>
      match Verifier.checkWith k bytes t.signature with
      | .accepted => .ok bytes
      | .rejected e => .error (.failed e)

/-- The events of a compilation. -/
def compilationEvents (renderId : String) (f : Flo.Fragment) : List Event :=
  f.anomalies.map (Event.ofAnomaly renderId) ++ [Event.compiled renderId f.anomalies.length]

/-- The stages of a render, up to its outcome or to the first failure. -/
def attempt {σ : Type} (o : Observer σ) (c : Config) (v : Verifier) (renderId : String)
    (s : Scene σ) : Except Abort Outcome × Scene σ :=
  match readTriple s.page c with
  | .error e => (.error (.failed e), s)
  | .ok triple =>
    let s := s.send o ⟨renderId, .transportRead, none⟩
    match authenticate v triple with
    | .error e => (.error e, s)
    | .ok bytes =>
      let s := s.send o ⟨renderId, .signatureVerified, none⟩
      match decodeSource bytes with
      | .error e => (.error (.failed e), s)
      | .ok source =>
        let fragment := Flo.compile source c.bindings
        let s := s.sendAll o (compilationEvents renderId fragment)
        match materialize s.page fragment.html c.note with
        | .error e => (.error (.failed e), s)
        | .ok page =>
          let s := { s with page }.send o ⟨renderId, .documentMaterialized, none⟩
          match Outcome.make renderId (.rendered fragment.html fragment.anomalies) with
          | .bad ps => (.error (.refused ps), s)
          | .ok outcome => (.ok outcome, s)

/-- Renders a page. Only a render without a name has no outcome. -/
def run {σ : Type} (o : Observer σ) (c : Config) (v : Verifier) (renderId : String) (s : Scene σ) :
    Except (List Fields.Problem) Outcome × Scene σ :=
  match attempt o c v renderId (s.send o ⟨renderId, .renderStarted, none⟩) with
  | (.ok outcome, s) => (.ok outcome, s.send o (.ofOutcome outcome s.page.write))
  | (.error abort, s) =>
    let s := (s.note (abort.record renderId)).placeholder renderId abort.kind
    match Outcome.make renderId (.aborted abort.kind) with
    | .bad ps => (.error ps, s)
    | .ok outcome => (.ok outcome, s.send o (.ofOutcome outcome s.page.write))

end SealedPage.Render
