import SealedPage.Http.Route
import SealedPage.Render.Pipeline

/-!
# The service of the consumer

Pages come in as request bodies and go out rendered, either at once, `renderPage` behind `POST
/render`, or as a stream of events whose last one carries the page, `streamPage` behind `POST
/render/stream`. Requests are refused for their size or their encoding alone, `HostRefusal`; an
aborted render is still an answer. A page that the HTML reader refuses is none, `ServiceError`.
-/

namespace SealedPage.Render

open Http

/-- Why a request body is no page. -/
inductive HostRefusal where
  | empty
  | tooLarge (maxKb : Nat)
  | notUtf8
  deriving DecidableEq, Repr

/-- The response to a body that is no page. -/
def HostRefusal.response : HostRefusal → Response
  | empty => .refusal 400 "Host document is empty"
  | tooLarge maxKb =>
    .refusal 413 ("Host document exceeds maximum allowed size of " ++ Nat.repr maxKb ++ " KB")
  | notUtf8 => .refusal 400 "Host document must be UTF-8 encoded"

/-- The text of a page in a request body. -/
def readHost (c : Config) (body : Bytes) : Except HostRefusal String :=
  if body.isEmpty then .error .empty
  else if c.maxHostBytes < body.length then .error (.tooLarge c.maxHostKb)
  else (Text.Utf8.toString body).mapError fun _ => .notUtf8

/-- What the service answers. -/
inductive Reply where
  | response (r : Response)
  /-- A stream of events. -/
  | stream (events : List Event)
  deriving Repr

/-- The status of an answer. A stream that has begun has one, whatever its events tell. -/
def Reply.status : Reply → Nat
  | response r => r.status
  | stream _ => 200

/-- The headers of a stream. -/
def streamHeaders : List (String × String) :=
  [("content-type", "text/event-stream; charset=utf-8"), ("cache-control", "no-cache"),
    ("x-accel-buffering", "no")]

/-- Why the service breaks down. -/
inductive ServiceError where
  /-- The page is refused by the HTML reader. -/
  | unreadable (cause : Html.ReadError)
  /-- The render has no name. -/
  | refused (problems : List Fields.Problem)
  /-- The request asks for no place. -/
  | target (cause : TargetError)
  deriving DecidableEq, Repr

/-- Renders a page and answers with it. -/
def renderPage (c : Config) (renderId : String) (body : Bytes) : Except ServiceError Reply :=
  match readHost c body with
  | .error e => .ok (.response e.response)
  | .ok host =>
    match Html.Document.ofString host with
    | .error e => .error (.unreadable e)
    | .ok page =>
      match run Observer.nobody c {} renderId { page, observer := () } with
      | (.error ps, _) => .error (.refused ps)
      | (.ok outcome, s) =>
        .ok (.response (.page s.page.write [("x-flo-render-status", outcome.state.name)]))

/-- Renders a page and answers with the events of the render. -/
def streamPage (c : Config) (renderId : String) (body : Bytes) : Except ServiceError Reply :=
  match readHost c body with
  | .error e => .ok (.response e.response)
  | .ok host =>
    match Html.Document.ofString host with
    | .error e => .error (.unreadable e)
    | .ok page =>
      let (_, s) := run EventQueue.observer c {} renderId { page, observer := {} }
      .ok (.stream s.observer.close.events)

/-- The answer to a question for the health of the service. -/
def health : Response :=
  .json (.obj [("status", .str "ok"), ("service", .str "runtime")])

/-- The routes of the service. -/
def routes (c : Config) (renderId : String) (body : Bytes) :
    List (Route (Except ServiceError Reply)) :=
  [⟨"POST", .exactly "/render", fun _ => renderPage c renderId body⟩,
    ⟨"POST", .exactly "/render/stream", fun _ => streamPage c renderId body⟩,
    ⟨"GET", .exactly "/health", fun _ => .ok (.response health)⟩]

/-- Answers a request; `renderId` is the name of the render that it may start. -/
def handle (c : Config) (renderId : String) (r : Request) : Except ServiceError Reply :=
  r.dispatch (routes c renderId r.body) (fun response => .ok (.response response))
    fun e => .error (.target e)

end SealedPage.Render
