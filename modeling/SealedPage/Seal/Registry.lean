import SealedPage.Log
import SealedPage.Seal.Settings
import SealedPage.Text.Quoted

/-!
# The registry of documents

The documents in one directory, by their bare names, `Registry`. A name is looked up by resolving
the path that it has in the directory, `Registry.resolve`; whatever leads out of the directory does
not exist. `readSource` reads a document, and `list` names all of them. A look-up also fails,
`RegistryError`, where links lead in a circle or a name is too long.
-/

namespace SealedPage.Seal

open Disk

/-- The directory of the documents, and the most bytes of a document. -/
structure Registry where
  root : Path
  maxBytes : Nat
  deriving DecidableEq, Repr

/-- Why a document is not had. -/
inductive RegistryError where
  | notFound (name : String)
  | tooLarge (name : String) (size max : Nat)
  | notUtf8 (cause : Text.Utf8.DecodeError)
  /-- The name lies behind links that lead in a circle. -/
  | circle (cause : LinkCircle)
  /-- A name on the way is too long. -/
  | nameTooLong (path : Path)
  deriving DecidableEq, Repr

/-- The wording of a circle of links. -/
def circleMessage (c : LinkCircle) : String :=
  "Symlink loop from " ++ Text.quoted (pathText c.path)

/-- The wording of an error. -/
def RegistryError.message : RegistryError → String
  | notFound name => name
  | tooLarge name size max =>
    "Document '" ++ name ++ "' exceeds maximum size (" ++ Nat.repr size ++ " > " ++ Nat.repr max ++
      " bytes)"
  | notUtf8 cause => cause.message
  | circle cause => circleMessage cause
  | nameTooLong path => "[Errno 36] File name too long: " ++ Text.quoted (pathText path)

namespace Registry

/-- The registry over a directory. -/
def make (t : Tree) (documents : Path) (maxKb : Nat) : Except LinkCircle Registry :=
  (t.resolve [] documents).map fun root => ⟨root, maxKb * 1024⟩

/-- Whether a text can be the name of a document at all. -/
def isAddressable (name : String) : Bool :=
  isDocumentName name && name.toList.head? != some '.'

/-- The record of a document whose path leads out of the directory. -/
def escapeRejected (name : String) : Log.Record where
  level := .warning
  event := "document_path_escape_rejected"
  extra := [("document", .str name)]

/-- The path of a document, and what the log says of it. -/
def resolve (r : Registry) (t : Tree) (name : String) :
    Except RegistryError Path × List Log.Record :=
  if !isAddressable name then (.error (.notFound name), [])
  else
    match t.resolve [] (r.root ++ [name]) with
    | .error c => (.error (.circle c), [])
    | .ok p =>
      if !isWithin p r.root then (.error (.notFound name), [escapeRejected name])
      else
        match t.isFile p with
        | .error _ => (.error (.nameTooLong p), [])
        | .ok false => (.error (.notFound name), [])
        | .ok true => (.ok p, [])

/-- The text of the file at a path; the text is exactly what the bytes spell. -/
def readFile (r : Registry) (t : Tree) (name : String) (p : Path) : Except RegistryError String :=
  match t.read? p with
  | none => .error (.notFound name)
  | some content =>
    if r.maxBytes < content.length then .error (.tooLarge name content.length r.maxBytes)
    else (Text.Utf8.toString content).mapError .notUtf8

/-- The text of a document, and what the log says of it. -/
def readSource (r : Registry) (t : Tree) (name : String) :
    Except RegistryError String × List Log.Record :=
  match r.resolve t name with
  | (.error e, log) => (.error e, log)
  | (.ok p, log) => (r.readFile t name p, log)

/-- The names among the given ones that lead to files. -/
def filesAmong (r : Registry) (t : Tree) : List String → Except RegistryError (List String)
  | [] => .ok []
  | name :: names =>
    match t.isFile (r.root ++ [name]) with
    | .error _ => .error (.nameTooLong (r.root ++ [name]))
    | .ok isFile =>
      (filesAmong r t names).map fun rest =>
        if isFile && isDocumentName name then name :: rest else rest

/-- The names of the documents, sorted. -/
def list (r : Registry) (t : Tree) : Except RegistryError (List String) :=
  match t.isDirectory r.root with
  | .error _ => .error (.nameTooLong r.root)
  | .ok false => .ok []
  | .ok true =>
    (r.filesAmong t (t.namesBehind r.root)).map fun names =>
      names.mergeSort fun a b => decide (a ≤ b)

end Registry

end SealedPage.Seal
