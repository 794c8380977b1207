import SealedPage.Json.Double

/-!
# JSON values

Values as a reader finds them, `Value`: integers are told apart from numbers with a fraction or an
exponent, and the members of an object keep their order. How deep values stand inside each other,
`Value.depth`, and how many digits their integers have, `Value.digits`, decide whether a value is
read or written at all.
-/

namespace SealedPage.Json

/-- A number that is not an integer literal: `mantissa * 10 ^ exponent` with a sign, or one of the
values without digits. -/
inductive Decimal where
  | finite (negative : Bool) (mantissa : Nat) (exponent : Int)
  | infinite (negative : Bool)
  | notANumber
  deriving DecidableEq, Repr, Inhabited

/-- A JSON value. -/
inductive Value where
  | null
  | bool (b : Bool)
  | int (n : Int)
  | float (x : Decimal)
  | str (s : String)
  | arr (items : List Value)
  | obj (members : List (String × Value))
  deriving Repr, Inhabited

/-- The member of the given name. -/
def get? (members : List (String × Value)) (name : String) : Option Value :=
  members.lookup name

/-- The member of the given name, if the value is an object that has it. -/
def Value.get? (v : Value) (name : String) : Option Value :=
  match v with
  | .obj members => members.lookup name
  | _ => none

/-- Writes a member: a known name keeps its place and takes the new value, a new one goes last. -/
def insert (name : String) (v : Value) : List (String × Value) → List (String × Value)
  | [] => [(name, v)]
  | (k, w) :: members =>
    if k = name then (name, v) :: members else (k, w) :: insert name v members

/-- Every name once: at the place of its first member, with the value of its last. -/
def dedup (members : List (String × Value)) : List (String × Value) :=
  members.foldl (fun done (k, v) => insert k v done) []

/-! ## Depth -/

mutual

/-- How many values stand inside each other at most: the value itself and those on the longest way
down from it. -/
def Value.depth : Value → Nat
  | .arr items => 1 + itemsDepth items
  | .obj members => 1 + membersDepth members
  | _ => 1

/-- The greatest depth of the items of an array. -/
def itemsDepth : List Value → Nat
  | [] => 0
  | v :: vs => max v.depth (itemsDepth vs)

/-- The greatest depth of the members of an object. -/
def membersDepth : List (String × Value) → Nat
  | [] => 0
  | (_, v) :: members => max v.depth (membersDepth members)

end

/-! ## Digits -/

/-- The most decimal digits of an integer that is read from a text or written as one. -/
def maxDigits : Nat := 4300

/-- How many decimal digits an integer has. -/
def digitCount (n : Int) : Nat :=
  (Nat.toDigits 10 n.natAbs).length

mutual

/-- The most digits that an integer within a value has. -/
def Value.digits : Value → Nat
  | .int n => digitCount n
  | .arr items => itemsDigits items
  | .obj members => membersDigits members
  | _ => 0

/-- The most digits that an integer within the items of an array has. -/
def itemsDigits : List Value → Nat
  | [] => 0
  | v :: vs => max v.digits (itemsDigits vs)

/-- The most digits that an integer within the members of an object has. -/
def membersDigits : List (String × Value) → Nat
  | [] => 0
  | (_, v) :: members => max v.digits (membersDigits members)

end

/-! ## Numbers as integers -/

/-- What a number is as an integer. -/
inductive Integral where
  | exactly (n : Int)
  | fractional
  | unbounded
  deriving DecidableEq, Repr

/-- A number with a sign. -/
def signed (negative : Bool) (n : Nat) : Int :=
  if negative then -(n : Int) else n

/-- The integer that a number equals, once it is rounded to double precision. -/
def Decimal.integral : Decimal → Integral
  | .infinite _ | .notANumber => .unbounded
  | .finite negative m e =>
    match Double.ofDecimal? m e with
    | none => .unbounded
    | some x => if x.remainder = 0 then .exactly (signed negative x.floor) else .fractional

/-! ## Numbers without bounds -/

/-- Whether a number is finite in double precision. -/
def Decimal.isFinite : Decimal → Bool
  | .infinite _ | .notANumber => false
  | .finite _ m e => (Double.ofDecimal? m e).isSome

mutual

/-- The value with a null in place of every number that is not finite. -/
def Value.onlyFinite : Value → Value
  | .float x => if x.isFinite then .float x else .null
  | .arr items => .arr (onlyFiniteItems items)
  | .obj members => .obj (onlyFiniteMembers members)
  | v => v

/-- The items of an array with a null in place of every number that is not finite. -/
def onlyFiniteItems : List Value → List Value
  | [] => []
  | v :: vs => v.onlyFinite :: onlyFiniteItems vs

/-- The members of an object with a null in place of every number that is not finite. -/
def onlyFiniteMembers : List (String × Value) → List (String × Value)
  | [] => []
  | (k, v) :: members => (k, v.onlyFinite) :: onlyFiniteMembers members

end

end SealedPage.Json
