import SealedPage.Text.Utf8

/-!
# Paths

Absolute paths as the names from the root down, `Path`, the cutting of path texts into components,
`components`, and the normal form of a path text, `normalText`. A path lies within another one if
that is a part of it, `isWithin`, and a name may have no more than `maxNameBytes` bytes.
-/

namespace SealedPage.Disk

/-- An absolute path: the names from the root down. -/
abbrev Path := List String

/-- Cuts a text at every slash; the letters of the current component stand in reverse. -/
def componentsFrom (component : List Char) : List Char → List String
  | [] => [String.ofList component.reverse]
  | c :: cs =>
    if c = '/' then String.ofList component.reverse :: componentsFrom [] cs
    else componentsFrom (c :: component) cs

/-- The components of a path text; those between two slashes next to each other are empty. -/
def components (s : String) : List String :=
  componentsFrom [] s.toList

/-- Whether a path text begins at the root. -/
def isAbsolute (s : String) : Bool :=
  s.toList.head? == some '/'

/-- Whether a component stays where it is. -/
def isIdle (name : String) : Bool :=
  name.isEmpty || name == "."

/-- The directory above a path; above the root there is the root. -/
def parent (p : Path) : Path :=
  p.dropLast

/-- Follows components without looking at any file. -/
def follow (p : Path) : List String → Path
  | [] => p
  | name :: rest =>
    if isIdle name then follow p rest
    else if name == ".." then follow (parent p) rest
    else follow (p ++ [name]) rest

/-- The text of an absolute path. -/
def pathText (p : Path) : String :=
  "/" ++ String.intercalate "/" p

/-- The slashes that a path text in normal form begins with: exactly two are kept, and more than two
count as one. -/
def rootText : List Char → String
  | '/' :: '/' :: '/' :: _ => "/"
  | '/' :: '/' :: _ => "//"
  | '/' :: _ => "/"
  | _ => ""

/-- The normal form of a path text: without idle components. -/
def normalText (s : String) : String :=
  let names := (components s).filter fun name => !isIdle name
  let text := rootText s.toList ++ String.intercalate "/" names
  if text.isEmpty then "." else text

/-- Whether a path lies at or below another one, component by component. -/
def isWithin (p base : Path) : Bool :=
  base.isPrefixOf p

/-- The most bytes of a name. -/
def maxNameBytes : Nat := 255

/-- Whether a name is too long for any directory. -/
def isTooLong (name : String) : Bool :=
  maxNameBytes < (Text.Utf8.ofString name).length

end SealedPage.Disk
