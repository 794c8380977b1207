import SealedPage.Flo.Fragment
import SealedPage.Http.Route
import SealedPage.Seal.Keys
import SealedPage.Seal.Registry
import SealedPage.Seal.Shell

/-!
# The service of the producer

Shells are signed at the time of a request, from the bytes that are on disk then: `Service.shell`,
for the master document behind `GET /` and for a named one behind `GET /flocode/`. The service
starts only with settings, keys and a master document, `Service.start`.
-/

namespace SealedPage.Seal

open Disk Http

/-- Why the service does not start. -/
inductive StartError where
  | settings (cause : SettingsError)
  | keys (cause : KeyFileError)
  | registry (cause : RegistryError)
  | noMaster (path : Path)
  deriving DecidableEq, Repr

/-- The wording of a missing master document. -/
def noMasterMessage (p : Path) : String :=
  "Missing master FLO file: " ++ pathText p

/-- A service that has started. -/
structure Service where
  tree : Tree
  settings : Settings
  keys : Key.Material
  registry : Registry
  deriving Repr

/-- Starts the service with its settings. -/
def Service.start (place : Place) (s : Settings) : Except StartError Service := do
  let keys ← (loadKeys place s).mapError .keys
  let registry ← (Registry.make place.tree s.documents s.maxDocumentKb).mapError
    fun c => .registry (.circle c)
  match (registry.resolve place.tree s.master).1 with
  | .ok _ => return ⟨place.tree, s, keys, registry⟩
  | .error (.notFound _) => throw (.noMaster (registry.root ++ [s.master]))
  | .error e => throw (.registry e)

/-- Why the service breaks down. -/
inductive ServiceError where
  | registry (cause : RegistryError)
  /-- The key is too small to sign with. -/
  | signing (cause : SigningError)
  /-- The request asks for no place. -/
  | target (cause : TargetError)
  deriving DecidableEq, Repr

/-- The source of a document, or the response that refuses it. -/
def Service.source (s : Service) (name : String) :
    Except ServiceError (Except Response String) :=
  match (s.registry.readSource s.tree name).1 with
  | .ok source => .ok (.ok source)
  | .error (.notFound _) => .ok (.error (.refusal 404 "FLO document not found"))
  | .error (.tooLarge _ _ _) | .error (.notUtf8 _) =>
    .ok (.error (.refusal 422 "FLO document is not servable"))
  | .error e => .error (.registry e)

/-- The header that names a document to observers. -/
def hashHeader (hash : String) : String × String :=
  ("x-source-hash", hash)

/-- Answers with the shell of a document. -/
def Service.shell (s : Service) (name : String) : Except ServiceError Response :=
  match s.source name with
  | .error e => .error e
  | .ok (.error refusal) => .ok refusal
  | .ok (.ok source) =>
    match packageDocument s.keys source with
    | .ok payload => .ok (.page (renderShell s.settings payload) [hashHeader payload.sourceHash])
    | .error .keyTooSmall => .error (.signing .keyTooSmall)
    | .error _ => .ok (.refusal 500 "Document signing failed. See engine logs for details.")

/-- Answers with the shell of the document that a path names. -/
def Service.namedShell (s : Service) (name : String) : Except ServiceError Response :=
  if nameEnd.isSuffixOf name.toList then s.shell name
  else .ok (.plain 404 "Not a FLO file")

/-- Answers with the unsigned page of the master document. -/
def Service.unsigned (s : Service) : Except ServiceError Response :=
  match s.source s.settings.master with
  | .error e => .error e
  | .ok (.error refusal) => .ok refusal
  | .ok (.ok source) =>
    let html := (Flo.compile source s.settings.ssrBindings).html
    .ok (.page (renderUnsigned s.settings html)
      [hashHeader (sourceHash (Text.Utf8.ofString source))])

/-- Answers with the names of all documents. -/
def Service.listing (s : Service) : Except ServiceError Response :=
  match s.registry.list s.tree with
  | .error e => .error (.registry e)
  | .ok names =>
    .ok (.json (.obj [("master", .str s.settings.master),
      ("documents", .arr (names.map Json.Value.str))]))

/-- The version of the service. -/
def version : String :=
  "0.3.0"

/-- The answer to a question for the health of the service. -/
def health : Response :=
  .json (.obj [("status", .str "ok"), ("service", .str "engine"), ("version", .str version)])

/-- The routes of the service. -/
def Service.routes (s : Service) : List (Route (Except ServiceError Response)) :=
  [⟨"GET", .exactly "/", fun _ => s.shell s.settings.master⟩,
    ⟨"GET", .below "/flocode/", s.namedShell⟩,
    ⟨"GET", .exactly "/ssr", fun _ => s.unsigned⟩,
    ⟨"GET", .exactly "/documents", fun _ => s.listing⟩,
    ⟨"GET", .exactly "/healthz", fun _ => .ok health⟩]

/-- Answers a request. -/
def Service.handle (s : Service) (r : Request) : Except ServiceError Response :=
  r.dispatch s.routes .ok fun e => .error (.target e)

end SealedPage.Seal
