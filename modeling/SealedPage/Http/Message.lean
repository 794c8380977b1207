import SealedPage.Json.Writer

/-!
# Requests and responses

What a service is asked, a `Request`, and what it answers, a `Response`. Only the parts of the
protocol that a service decides on are kept.
-/

namespace SealedPage.Http

/-- A request; its target is still encoded. -/
structure Request where
  method : String
  target : String
  body : List UInt8 := []
  deriving Repr

/-- The content of a response. -/
inductive Content where
  | text (s : String)
  | json (v : Json.Value)
  deriving Repr

/-- The text of a content. -/
def Content.body : Content → String
  | text s => s
  | json v => v.writeCompact

/-- A response. -/
structure Response where
  status : Nat := 200
  headers : List (String × String)
  content : Content
  deriving Repr

namespace Response

/-- A page, with further headers. -/
def page (html : String) (headers : List (String × String)) : Response where
  headers := ("content-type", "text/html; charset=utf-8") :: headers
  content := .text html

/-- A plain text. -/
def plain (status : Nat) (s : String) : Response where
  status := status
  headers := [("content-type", "text/plain; charset=utf-8")]
  content := .text s

/-- A JSON value. -/
def json (v : Json.Value) : Response where
  headers := [("content-type", "application/json")]
  content := .json v

/-- A refusal that says why. -/
def refusal (status : Nat) (detail : String) : Response :=
  { json (.obj [("detail", .str detail)]) with status }

/-- No route leads to the path. -/
def notFound : Response :=
  refusal 404 "Not Found"

/-- The routes to the path take other methods. -/
def methodNotAllowed : Response :=
  refusal 405 "Method Not Allowed"

/-- The response to a request that asks for the headers alone, which has no content. -/
def headersOnly (r : Response) : Response :=
  { r with content := .text "" }

end Response

end SealedPage.Http
