import SealedPage.Datum
import SealedPage.Fields.Problem

/-!
# Bindings

The values that a document's placeholders stand for, `Bindings`; a name without a value stands for
the empty text, `Bindings.lookup`. Bindings are not signed: the two sides of the transport may use
different ones for the same document.
-/

namespace SealedPage.Flo

open Fields

/-- Names with their values; of several entries for a name the first one counts. -/
structure Bindings where
  entries : List (String × String) := []
  deriving DecidableEq, Repr, Inhabited

namespace Bindings

/-- The value bound to a name. -/
def get? (b : Bindings) (name : String) : Option String :=
  b.entries.lookup name

/-- The value bound to a name, or the empty text. -/
def lookup (b : Bindings) (name : String) : String :=
  (b.get? name).getD ""

/-- A value that is a text. -/
def entry : String × Datum → Checked (String × String)
  | (name, .json (.str s)) => .ok (name, s)
  | (name, _) => .bad [⟨["mapping", name], .notText⟩]

/-- Bindings from named values, all of which have to be texts. -/
def ofEntries (entries : List (String × Datum)) : Checked Bindings :=
  (Checked.traverse entry entries).map (⟨·⟩)

end Bindings

end SealedPage.Flo
