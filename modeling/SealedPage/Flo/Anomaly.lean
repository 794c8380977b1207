import SealedPage.Fields.Read

/-!
# Anomalies

What a compilation reports of the tags that it left as they are, `Anomaly`. An anomaly names its
cause, an `AnomalyKind`, and the place of its tag; it never stops a compilation.
-/

namespace SealedPage.Flo

open Fields

/-- The kind of an anomaly. -/
inductive AnomalyKind where
  | unknownTag
  | unbalancedTag
  | invalidAttributes
  | selfClosingTag
  deriving DecidableEq, Repr

namespace AnomalyKind

/-- The name of a kind. -/
def name : AnomalyKind → String
  | unknownTag => "unknown_tag"
  | unbalancedTag => "unbalanced_tag"
  | invalidAttributes => "invalid_attributes"
  | selfClosingTag => "self_closing_tag"

/-- All kinds. -/
def all : List AnomalyKind :=
  [unknownTag, unbalancedTag, invalidAttributes, selfClosingTag]

/-- The kind of the given name. -/
def ofName? (s : String) : Option AnomalyKind :=
  all.find? fun k => k.name == s

end AnomalyKind

/-- A tag that was left as it is: why, its name, and where it begins in the interpolated text. -/
structure Anomaly where
  kind : AnomalyKind
  tag : String
  offset : Nat
  detail : Option String := none
  deriving DecidableEq, Repr

/-- An anomaly from the fields of a record. -/
def Anomaly.ofFields (members : Members) : Checked Anomaly :=
  (fun _ => Anomaly.mk) <$> onlyKnown members ["kind", "tag", "offset", "detail"]
    <*> required members "kind" (listed AnomalyKind.ofName?)
    <*> required members "tag" text
    <*> required members "offset" (fun v => (integerFrom 0 v).map Int.toNat)
    <*> withDefault members "detail" none (nullable text)

end SealedPage.Flo
