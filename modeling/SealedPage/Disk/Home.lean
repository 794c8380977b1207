import SealedPage.Disk.Path

/-!
# Home directories

A relative path whose first component begins with a tilde lies in the home directory of the account
that the component names: `expandHome`. An account whose home directory is not known is told apart,
`Expansion.unknownHome`.
-/

namespace SealedPage.Disk

/-- The home directory of an account; the empty name stands for the account that runs the service.
No account but the administrator's is known. -/
def home? (account : List Char) : Option Path :=
  if account.isEmpty || account = "root".toList then some ["root"] else none

/-- What a path in a home directory comes to. -/
inductive Expansion where
  /-- A path text without a tilde in front. -/
  | path (s : String)
  /-- No home directory is known for the account. -/
  | unknownHome
  /-- The name of the account holds a zero byte. -/
  | zeroByte
  deriving DecidableEq, Repr

/-- Replaces a tilde at the front of a path text in normal form. -/
def expandHome (s : String) : Expansion :=
  match s.toList with
  | '~' :: cs =>
    let account := cs.takeWhile (· != '/')
    if account.contains '\x00' then .zeroByte
    else
      match home? account with
      | some p => .path (pathText p ++ String.ofList (cs.drop account.length))
      | none => .unknownHome
  | _ => .path s

end SealedPage.Disk
