import SealedPage.Fields.Problem
import SealedPage.Fields.Number
import SealedPage.Json.Value

/-!
# Reading fields

Records are read from the members of a JSON object, `record`, which knows its fields, their defaults
and no others, `onlyKnown`. Texts have to be texts, `text`, while integers and truth values are also
read from the other forms that write them, `integer` and `truth`.
-/

namespace SealedPage.Fields

open Json (Value)

/-- The members that a record is read from. -/
abbrev Members := List (String × Value)

/-- A field that has to be present. -/
def required {α : Type} (members : Members) (name : String) (read : Value → Checked α) :
    Checked α :=
  match members.lookup name with
  | some v => (read v).under name
  | none => .bad [⟨[name], .missing⟩]

/-- A field with a default. -/
def withDefault {α : Type} (members : Members) (name : String) (default : α)
    (read : Value → Checked α) : Checked α :=
  match members.lookup name with
  | some v => (read v).under name
  | none => .ok default

/-- The problem of every field that the record does not know. -/
def onlyKnown (members : Members) (known : List String) : Checked Unit :=
  match members.filter fun m => !known.contains m.1 with
  | [] => .ok ()
  | unknown => .bad (unknown.map fun m => ⟨[m.1], .unknown⟩)

/-- A value that may be null. -/
def nullable {α : Type} (read : Value → Checked α) : Value → Checked (Option α)
  | .null => .ok none
  | v => (read v).map some

/-- A text. -/
def text : Value → Checked String
  | .str s => .ok s
  | _ => .fail .notText

/-- A text that is not empty. -/
def nonemptyText (v : Value) : Checked String :=
  (text v).andThen fun s => if s.isEmpty then .fail .tooShort else .ok s

/-- One of the listed values, by its name. -/
def listed {α : Type} (ofName? : String → Option α) : Value → Checked α
  | .str s =>
    match ofName? s with
    | some a => .ok a
    | none => .fail .notListed
  | _ => .fail .notListed

/-! ## Integers -/

/-- An integer, or a text or a whole number that writes one. Of the numbers with a point, the whole
ones that lie within a signed word are read. -/
def integer : Value → Checked Int
  | .int n => .ok n
  | .bool b => .ok (if b then 1 else 0)
  | .float x =>
    match x.integral with
    | .exactly n => if fitsWord n && n != -(1 <<< 63) then .ok n else .fail .tooLarge
    | .fractional => .fail .fractional
    | .unbounded => .fail .notFinite
  | .str s =>
    match integerOfText s with
    | .number n => .ok n
    | .tooLong => .fail .tooLarge
    | .malformed => .fail .noIntegerText
  | _ => .fail .notInteger

/-- An integer not below a bound. -/
def integerFrom (least : Int) (v : Value) : Checked Int :=
  (integer v).andThen fun n => if n < least then .fail .belowLeast else .ok n

/-- An integer between two bounds. -/
def integerBetween (least greatest : Int) (v : Value) : Checked Int :=
  (integerFrom least v).andThen fun n => if greatest < n then .fail .aboveGreatest else .ok n

/-! ## Truth values -/

/-- The truth value that a word stands for. -/
def truthOfText? (s : String) : Option Bool :=
  let word := s.map Char.toLower
  if ["1", "on", "t", "true", "y", "yes"].contains word then some true
  else if ["0", "off", "f", "false", "n", "no"].contains word then some false
  else none

/-- The truth value of a number; one that lies outside a signed word is not looked at. -/
def truthOfInteger (n : Int) : Checked Bool :=
  if n = 0 then .ok false else if n = 1 then .ok true
  else if fitsWord n then .fail .noTruthText
  else .fail .notTruth

/-- A truth value, or a word or a number that stands for one. -/
def truth : Value → Checked Bool
  | .bool b => .ok b
  | .int n => truthOfInteger n
  | .float x =>
    match x.integral with
    | .exactly n => if n = -(1 <<< 63) then .fail .notTruth else truthOfInteger n
    | _ => .fail .notTruth
  | .str s =>
    match truthOfText? s with
    | some b => .ok b
    | none => .fail .noTruthText
  | _ => .fail .notTruth

/-! ## Composites -/

/-- A mapping of names to texts. -/
def textMapping : Value → Checked (List (String × String))
  | .obj members =>
    Checked.traverse (fun (k, v) => ((text v).map fun s => (k, s)).under k) members
  | _ => .fail .notMapping

/-- A mapping of names to any values. -/
def mapping : Value → Checked Members
  | .obj members => .ok members
  | _ => .fail .notMapping

/-- A record. -/
def record {α : Type} (read : Members → Checked α) : Value → Checked α
  | .obj members => read members
  | _ => .fail .notRecord

/-- A list; the path of a problem names the place of the item. -/
def listOf {α : Type} (read : Value → Checked α) : Value → Checked (List α)
  | .arr items => Checked.traverse (fun (v, i) => (read v).under (Nat.repr i)) items.zipIdx
  | _ => .fail .notList

end SealedPage.Fields
