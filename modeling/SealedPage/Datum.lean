import SealedPage.Json.Value

/-!
# Data from outside

A value handed in before its kind is known, `Datum`: a JSON value or a string of bytes. Functions
that take text or bytes alone name the kind they got when they refuse, `Datum.kind`.
-/

namespace SealedPage

/-- Bytes, in order. -/
abbrev Bytes := List UInt8

/-- A value whose kind has not been checked. -/
inductive Datum where
  | json (v : Json.Value)
  | bytes (b : Bytes)
  deriving Repr, Inhabited

namespace Json.Value

/-- The name of a value's kind, as messages give it. -/
def kind : Json.Value → String
  | .null => "NoneType"
  | .bool _ => "bool"
  | .int _ => "int"
  | .float _ => "float"
  | .str _ => "str"
  | .arr _ => "list"
  | .obj _ => "dict"

end Json.Value

namespace Datum

/-- A text. -/
def text (s : String) : Datum :=
  .json (.str s)

/-- The name of a value's kind, as messages give it. -/
def kind : Datum → String
  | .json v => v.kind
  | .bytes _ => "bytes"

end Datum

end SealedPage
