import SealedPage.Text.Blank
import SealedPage.Text.Line

/-!
# Files of variables

A file of variables holds assignments, as a rule one on a line, `assignmentsOfText`. Values may
stand in quotes, and then run over several lines; a number sign begins a comment; and a value may
refer to other variables by their names in braces, `Assignments.run`. What is no assignment is
passed over up to the end of its line.
-/

namespace SealedPage.Seal

/-- Variables with their values; a variable may be named without a value. -/
abbrev Assignments := List (String × Option String)

/-! ## Reading assignments -/

/-- A step of reading: what was read and the text behind it, or the text behind which the reading
failed. -/
abbrev Step (α : Type) := Except (List Char) (α × List Char)

/-- Whether a character is a blank within a line. -/
def isInlineBlank (c : Char) : Bool :=
  Text.isBlank c && c != '\n'

/-- The text behind the blanks at its front that end no line. -/
def skipInline (s : List Char) : List Char :=
  s.dropWhile isInlineBlank

/-- The text behind the end of the current line. -/
def skipLine (s : List Char) : List Char :=
  (s.dropWhile (· != '\n')).drop 1

/-- The word that may stand in front of a variable. -/
def exportWord : List Char :=
  "export".toList

/-- The text behind the word and blanks that may stand in front of a variable. -/
def skipExport (s : List Char) : List Char :=
  let behind := s.drop exportWord.length
  if exportWord.isPrefixOf s && behind.head?.any isInlineBlank then skipInline behind else s

/-- Whether a character may stand in the name of a variable without quotes. -/
def isVariableChar (c : Char) : Bool :=
  c != '=' && c != '#' && !Text.isBlank c

/-- Reads the name of a variable, which may stand in single quotes; before a comment there is
none. -/
def readName : (s : List Char) → Step (Option (List Char))
  | '#' :: cs => .ok (none, '#' :: cs)
  | '\'' :: cs =>
    let name := cs.takeWhile (· != '\'')
    match cs.drop name.length with
    | [] => .error cs
    | _ :: rest => if name.isEmpty then .error cs else .ok (some name, rest)
  | s =>
    let name := s.takeWhile isVariableChar
    if name.isEmpty then .error s else .ok (some name, s.drop name.length)

/-- The letters that a backslash writes in front of the given ones. -/
def escapes : List (Char × Char) :=
  [('\\', '\\'), ('\'', '\''), ('"', '"'), ('a', '\x07'), ('b', '\x08'), ('f', '\x0C'), ('n', '\n'),
    ('r', '\r'), ('t', '\t'), ('v', '\x0B')]

/-- Reads a text up to the quote that closes it. A backslash in front of a letter of `table` writes
the letter beside it, and one in front of the quote keeps the text open; the text so far stands in
reverse. -/
def quotedValue? (quote : Char) (table : List (Char × Char)) (done : List Char) :
    List Char → Option (List Char × List Char)
  | [] => none
  | '\\' :: c :: cs =>
    match table.lookup c with
    | some written => quotedValue? quote table (written :: done) cs
    | none => quotedValue? quote table ('\\' :: done) (c :: cs)
  | c :: cs =>
    if c = quote then some (done.reverse, cs) else quotedValue? quote table (c :: done) cs

/-- A line up to its comment, which a blank and a number sign begin. -/
def dropComment : List Char → List Char
  | [] => []
  | c :: cs =>
    if Text.isBlank c && cs.head? == some '#' then [] else c :: dropComment cs

/-- Reads the value behind an equals sign: the text in quotes, or the rest of the line without its
comment and the blanks around it. -/
def readValue (s : List Char) : Step (List Char) :=
  match skipInline s with
  | '\'' :: cs =>
    match quotedValue? '\'' (escapes.take 2) [] cs with
    | some found => .ok found
    | none => .error cs
  | '"' :: cs =>
    match quotedValue? '"' escapes [] cs with
    | some found => .ok found
    | none => .error cs
  | _ =>
    let line := s.takeWhile (· != '\n')
    .ok (Text.trim (dropComment line), s.drop line.length)

/-- Reads the rest of a line, which may hold a comment. -/
def readLineEnd (s : List Char) : Step Unit :=
  match skipInline s with
  | [] => .ok ((), [])
  | '\n' :: rest => .ok ((), rest)
  | '#' :: cs => .ok ((), skipLine cs)
  | rest => .error rest

/-- Reads the value of a variable, if an equals sign stands there. -/
def readAssigned (s : List Char) : Step (Option (List Char)) :=
  match skipInline s with
  | '=' :: cs =>
    match readValue cs with
    | .ok (value, rest) => .ok (some value, rest)
    | .error rest => .error rest
  | rest => .ok (none, rest)

/-- Reads an assignment or a comment up to the end of its line. -/
def readLine (s : List Char) : Step (Option (String × Option String)) :=
  match readName (skipExport s) with
  | .error rest => .error rest
  | .ok (name, rest) =>
    match readAssigned rest with
    | .error rest => .error rest
    | .ok (value, rest) =>
      match readLineEnd rest with
      | .error rest => .error rest
      | .ok ((), rest) =>
        .ok (name.map fun name => (String.ofList name, value.map String.ofList), rest)

/-- The assignments of a text with plain lines. Every line read leaves a shorter text. -/
def assignmentsOfLines (s : List Char) : Assignments :=
  match s.dropWhile Text.isBlank with
  | [] => []
  | c :: cs =>
    let (found, rest) := match readLine (c :: cs) with
      | .ok (found, rest) => (found.toList, rest)
      | .error rest => ([], skipLine rest)
    if rest.length < s.length then found ++ assignmentsOfLines rest else found
termination_by s.length

/-- The assignments of a text, in the order of the text. A mark of the byte order may stand in front
of it. -/
def assignmentsOfText (s : List Char) : Assignments :=
  assignmentsOfLines (Text.plainLines (if s.head? = some '\uFEFF' then s.drop 1 else s))

/-! ## References -/

/-- The reference at the front of a text, which begins behind a dollar sign and a brace: the name,
the text for a variable that is not set, and the number of characters up to the closing brace. -/
def reference? (s : List Char) : Option (String × List Char × Nat) :=
  let name := s.takeWhile fun c => c != '\x7d' && c != ':'
  match s.drop name.length with
  | '\x7d' :: _ => some (String.ofList name, [], name.length + 1)
  | ':' :: '-' :: cs =>
    let default := cs.takeWhile (· != '\x7d')
    if default.length < cs.length then
      some (String.ofList name, default, name.length + 2 + default.length + 1)
    else none
  | _ => none

/-- Replaces the references of a value, after passing over its first `skip` characters; `get`
finds the value for a name or takes the given one. -/
def replaceReferences (get : String → String → String) : (skip : Nat) → List Char → List Char
  | _, [] => []
  | skip + 1, _ :: cs => replaceReferences get skip cs
  | 0, c :: cs =>
    match c, cs with
    | '$', '\x7b' :: behind =>
      match reference? behind with
      | some (name, default, length) =>
        (get name (String.ofList default)).toList ++ replaceReferences get (length + 1) cs
      | none => c :: replaceReferences get 0 cs
    | _, _ => c :: replaceReferences get 0 cs

/-- Assigns a variable: a known one keeps its place and takes the new value. -/
def assign (name : String) (value : Option String) : Assignments → Assignments
  | [] => [(name, value)]
  | (n, v) :: rest =>
    if n = name then (n, value) :: rest else (n, v) :: assign name value rest

/-- The value of a variable among the given ones, or else in the environment, or else the default. A
variable that is named without a value is empty. -/
def valueIn (done environment : Assignments) (name default : String) : String :=
  match (done.lookup name).or (environment.lookup name) with
  | some value => value.getD ""
  | none => default

/-- The variables that assignments leave behind, taken one after the other. A reference leads to an
earlier assignment, or else to the environment. -/
def Assignments.run (assignments environment : Assignments) : Assignments :=
  assignments.foldl (fun done (name, value) =>
    let value := value.map fun v =>
      String.ofList (replaceReferences (valueIn done environment) 0 v.toList)
    assign name value done) []

end SealedPage.Seal
