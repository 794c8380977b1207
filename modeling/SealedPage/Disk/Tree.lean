import SealedPage.Datum
import SealedPage.Disk.Path

/-!
# File trees

Files, directories and symbolic links under absolute paths, `Tree`, and what stands behind a path
text when all links on the way are followed, `findText`. A look-up fails with a `LookupError`, also
after `maxLinks` links; `isFile` takes most failures for an answer, and `read?` gives the content.
-/

namespace SealedPage.Disk

/-- What a path holds. -/
inductive Entry where
  | file (content : Bytes)
  | directory
  | link (target : String)
  deriving DecidableEq, Repr

/-- A tree: the entries of paths, of which the first one counts. The root is a directory. -/
structure Tree where
  entries : List (Path × Entry) := []
  deriving DecidableEq, Repr

namespace Tree

/-- The entry of a path, no link being followed. -/
def entry? (t : Tree) (p : Path) : Option Entry :=
  if p = [] then some .directory else t.entries.lookup p

/-- The target of the link at a path. -/
def link? (t : Tree) (p : Path) : Option String :=
  match t.entry? p with
  | some (.link target) => some target
  | _ => none

/-- The tree with an entry put at a path. -/
def put (t : Tree) (p : Path) (e : Entry) : Tree :=
  ⟨(p, e) :: t.entries⟩

/-- The tree with a directory at a path and at every path above it that has none. -/
def makeDirectory (t : Tree) (p : Path) : Tree :=
  (List.range (p.length + 1)).foldl (fun t n =>
    match t.entry? (p.take n) with
    | some _ => t
    | none => t.put (p.take n) .directory) t

/-- The tree with an entry put at a path, in a directory that is made if need be. -/
def add (t : Tree) (p : Path) (e : Entry) : Tree :=
  (t.makeDirectory (parent p)).put p e

/-- The names in a directory, each once. -/
def names (t : Tree) (p : Path) : List String :=
  (t.entries.filterMap fun (q, _) =>
    if q ≠ [] ∧ parent q = p then q.getLast? else none).eraseDups

/-! ## Following links -/

/-- Why nothing is found behind a path. -/
inductive LookupError where
  | missing
  | notDirectory
  /-- More links than are followed. -/
  | tooManyLinks
  | nameTooLong
  deriving DecidableEq, Repr

/-- A file or a directory. -/
inductive Node where
  | file (content : Bytes)
  | directory
  deriving DecidableEq, Repr

/-- The most links that are followed on the way to a file. -/
def maxLinks : Nat := 40

/-- Follows components from a path to a file or a directory, through at most `links` links. Only a
directory can be left. -/
def findFrom (t : Tree) (links : Nat) (here : Path) (rest : List String) :
    Except LookupError Node :=
  match rest with
  | [] =>
    match t.entry? here with
    | some .directory => .ok .directory
    | some (.file content) => .ok (.file content)
    | _ => .error .missing
  | name :: rest =>
    match t.entry? here with
    | some .directory =>
      if isIdle name then findFrom t links here rest
      else if name == ".." then findFrom t links (parent here) rest
      else if isTooLong name then .error .nameTooLong
      else
        match t.entry? (here ++ [name]) with
        | none => .error .missing
        | some (.link target) =>
          match links with
          | 0 => .error .tooManyLinks
          | links + 1 =>
            findFrom t links (if isAbsolute target then [] else here) (components target ++ rest)
        | some _ => findFrom t links (here ++ [name]) rest
    | some (.file _) => .error .notDirectory
    | _ => .error .missing
termination_by (links, rest.length)

/-- The file or the directory behind an absolute path. -/
def find (t : Tree) (p : Path) : Except LookupError Node :=
  t.findFrom maxLinks [] p

/-- The file or the directory behind a path text, as seen from a directory. -/
def findText (t : Tree) (here : Path) (s : String) : Except LookupError Node :=
  t.findFrom maxLinks [] ((if isAbsolute s then [] else here) ++ components s)

/-- Whether a path leads to a node of a kind. A path with a name that is too long is an error, and
any other one that leads nowhere leads to no such node. -/
def leadsTo (t : Tree) (p : Path) (kind : Node → Bool) : Except LookupError Bool :=
  match t.find p with
  | .ok node => .ok (kind node)
  | .error .nameTooLong => .error .nameTooLong
  | .error _ => .ok false

/-- Whether a path leads to a file. -/
def isFile (t : Tree) (p : Path) : Except LookupError Bool :=
  t.leadsTo p fun
    | .file _ => true
    | .directory => false

/-- Whether a path leads to a directory. -/
def isDirectory (t : Tree) (p : Path) : Except LookupError Bool :=
  t.leadsTo p fun
    | .file _ => false
    | .directory => true

/-- The bytes of the file that a path leads to. -/
def read? (t : Tree) (p : Path) : Option Bytes :=
  match t.find p with
  | .ok (.file content) => some content
  | _ => none

end Tree

end SealedPage.Disk
