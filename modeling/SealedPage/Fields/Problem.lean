/-!
# Problems with fields

What can be wrong with the fields of a record, `Problem`, and how a list of problems is reported,
`report`: one line for each, with the path of the field and the name of the cause, in the order of
the lines. A check of several fields, `Checked`, collects the problems of all of them.
-/

namespace SealedPage.Fields

/-- What is wrong with a field. -/
inductive Cause where
  /-- A required field is absent. -/
  | missing
  /-- A field that the record does not know. -/
  | unknown
  /-- No text. -/
  | notText
  /-- A text that is too short. -/
  | tooShort
  /-- A text of the wrong form. -/
  | wrongForm
  /-- None of the listed values. -/
  | notListed
  /-- No value that can be an integer. -/
  | notInteger
  /-- A text that writes no integer. -/
  | noIntegerText
  /-- An integer that is too large to be read. -/
  | tooLarge
  /-- A number with a fraction where an integer is wanted. -/
  | fractional
  /-- A number without bounds. -/
  | notFinite
  /-- A number below the least allowed one. -/
  | belowLeast
  /-- A number above the greatest allowed one. -/
  | aboveGreatest
  /-- No value that can be a truth value. -/
  | notTruth
  /-- A value that reads as no truth value. -/
  | noTruthText
  /-- No mapping. -/
  | notMapping
  /-- No list. -/
  | notList
  /-- No path. -/
  | notPath
  /-- No value that can be an identifier. -/
  | notIdentifier
  /-- A text that writes no identifier. -/
  | noIdentifierText
  /-- No value that can be a point in time. -/
  | notTime
  /-- A text that writes no point in time. -/
  | noTimeText
  /-- A number of seconds that is too small or too large for a point in time. -/
  | outOfTime
  /-- No record. -/
  | notRecord
  /-- A rule of the record is broken, with the rule's own wording. -/
  | rule (text : String)
  deriving DecidableEq, Repr

/-- The name of a cause. -/
def Cause.name : Cause → String
  | .missing => "missing"
  | .unknown => "extra_forbidden"
  | .notText => "string_type"
  | .tooShort => "string_too_short"
  | .wrongForm => "string_pattern_mismatch"
  | .notListed => "enum"
  | .notInteger => "int_type"
  | .noIntegerText => "int_parsing"
  | .tooLarge => "int_parsing_size"
  | .fractional => "int_from_float"
  | .notFinite => "finite_number"
  | .belowLeast => "greater_than_equal"
  | .aboveGreatest => "less_than_equal"
  | .notTruth => "bool_type"
  | .noTruthText => "bool_parsing"
  | .notMapping => "dict_type"
  | .notList => "list_type"
  | .notPath => "path_type"
  | .notIdentifier => "uuid_type"
  | .noIdentifierText => "uuid_parsing"
  | .notTime => "datetime_type"
  | .noTimeText => "datetime_from_date_parsing"
  | .outOfTime => "datetime_parsing"
  | .notRecord => "model_type"
  | .rule text => "value_error: Value error, " ++ text

/-- A problem at a path; the empty path stands for the whole record. -/
structure Problem where
  path : List String
  cause : Cause
  deriving DecidableEq, Repr

/-- The line that reports a problem. -/
def Problem.line (p : Problem) : String :=
  String.intercalate "." p.path ++ ": " ++ p.cause.name

/-- The report of several problems: their lines, sorted. -/
def report (problems : List Problem) : String :=
  String.intercalate "\n" ((problems.map Problem.line).mergeSort fun a b => decide (a ≤ b))

/-- A value that was checked, or everything that is wrong with it. -/
inductive Checked (α : Type) where
  | ok (value : α)
  | bad (problems : List Problem)

namespace Checked

/-- Applies a function to a value that passed. -/
def map {α β : Type} (f : α → β) : Checked α → Checked β
  | ok a => ok (f a)
  | bad ps => bad ps

/-- Applies a checked function to a checked value; the problems of both are kept. -/
def ap {α β : Type} : Checked (α → β) → Checked α → Checked β
  | ok f, ok a => ok (f a)
  | ok _, bad ps => bad ps
  | bad ps, ok _ => bad ps
  | bad ps, bad qs => bad (ps ++ qs)

instance : Applicative Checked where
  pure := ok
  map := map
  seq f a := ap f (a ())

/-- Continues with a value that passed; a failure ends here. -/
def andThen {α β : Type} (f : α → Checked β) : Checked α → Checked β
  | ok a => f a
  | bad ps => bad ps

/-- A problem at the place itself. -/
def fail {α : Type} (cause : Cause) : Checked α :=
  bad [⟨[], cause⟩]

/-- Puts a step in front of the path of every problem. -/
def under {α : Type} (step : String) : Checked α → Checked α
  | ok a => ok a
  | bad ps => bad (ps.map fun p => { p with path := step :: p.path })

/-- The value, or the problems. -/
def toExcept {α : Type} : Checked α → Except (List Problem) α
  | ok a => .ok a
  | bad ps => .error ps

/-- Checks the items of a list in turn; all problems are kept. -/
def traverse {α β : Type} (f : α → Checked β) : List α → Checked (List β)
  | [] => ok []
  | a :: as => ap (map List.cons (f a)) (traverse f as)

end Checked

end SealedPage.Fields
