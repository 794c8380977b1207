import SealedPage.Http.Message
import SealedPage.Http.Target

/-!
# Routes

A `Route` leads from a method and a form of paths, a `Pattern`, to an action. The first route whose
form and method fit is taken, `lead`. A path that no form fits, but whose shorter form without the
slashes at its end fits, is asked for again in the shorter form, `Request.dispatch`.
-/

namespace SealedPage.Http

/-- A form of paths. -/
inductive Pattern where
  /-- This path, or this path with a line feed behind it. -/
  | exactly (path : String)
  /-- This path with one more segment behind it. -/
  | below (path : String)
  deriving DecidableEq, Repr

/-- The segment that a path has for a pattern, empty for an exact one. -/
def Pattern.segment? (path : List Char) : Pattern → Option String
  | exactly p => if path = p.toList || path = p.toList ++ ['\n'] then some "" else none
  | below p =>
    let segment := path.drop p.length
    if p.toList.isPrefixOf path && !segment.isEmpty && !segment.contains '/' then
      some (String.ofList segment)
    else none

/-- A route to an action, which is given the segment of the path. -/
structure Route (α : Type) where
  method : String
  pattern : Pattern
  action : String → α

/-- Where routes lead. -/
inductive Destination (α : Type) where
  | found (a : α)
  /-- Only other methods lead somewhere. -/
  | otherMethod
  | nowhere
  deriving Repr

/-- Where the routes lead from a method and a path. -/
def lead {α : Type} (method : String) (path : List Char) : List (Route α) → Destination α
  | [] => .nowhere
  | route :: routes =>
    match route.pattern.segment? path with
    | none => lead method path routes
    | some segment =>
      if route.method = method then .found (route.action segment)
      else
        match lead method path routes with
        | .nowhere => .otherMethod
        | destination => destination

/-- A path without the slashes at its end. -/
def dropFinalSlashes (path : List Char) : List Char :=
  (path.reverse.dropWhile (· == '/')).reverse

/-- Where the routes lead from a path, asking again for a shorter one at most `again` times. The
shorter path is sent as it stands, and so is decoded once more. -/
def leadAgain {α : Type} (method : String) (routes : List (Route α)) : (again : Nat) →
    (path : List Char) → Destination α
  | 0, path => lead method path routes
  | again + 1, path =>
    match lead method path routes with
    | .nowhere =>
      let shorter := dropFinalSlashes path
      match lead method shorter routes with
      | .nowhere => .nowhere
      | _ => leadAgain method routes again (decodePath (dropQuery shorter))
    | destination => destination

/-- How often a path is asked for again. -/
def maxAgain : Nat := 20

/-- The method of a request, which is sent in capital letters. -/
def Request.sentMethod (r : Request) : String :=
  r.method.toUpper

/-- The method that asks for the headers of a response alone. -/
def headMethod : String :=
  "HEAD"

/-- A response as it is sent to a request. -/
def Request.sent (r : Request) (response : Response) : Response :=
  if r.sentMethod = headMethod then response.headersOnly else response

/-- The action that a request leads to, or the answer that it leads to none, or the refusal of its
target. -/
def Request.dispatch {α : Type} (r : Request) (routes : List (Route α)) (answer : Response → α)
    (refuse : TargetError → α) : α :=
  match pathOfTarget r.target with
  | .error e => refuse e
  | .ok path =>
    match leadAgain r.sentMethod routes maxAgain path with
    | .found a => a
    | .otherMethod => answer (r.sent .methodNotAllowed)
    | .nowhere => answer (r.sent .notFound)

end SealedPage.Http
