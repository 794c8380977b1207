import SealedPage.Json.Value

/-!
# Log records

What operations tell their operators, as data, `Record`: a level, the name of what happened, and
fields. Detail that no user may see goes here and nowhere else.
-/

namespace SealedPage.Log

/-- How serious a record is. -/
inductive Level where
  | warning
  | error
  deriving DecidableEq, Repr

/-- The name of a level. -/
def Level.name : Level → String
  | warning => "WARNING"
  | error => "ERROR"

/-- A record of something that happened. -/
structure Record where
  level : Level
  event : String
  extra : List (String × Json.Value)
  deriving Repr

end SealedPage.Log
