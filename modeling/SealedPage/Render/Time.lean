import SealedPage.Fields.Read

/-!
# Points in time

A point in time, `Time`, keeps the offset it was written with. It is read from a date with a time of
day, `Time.ofDate?`, and also from the seconds since the beginning of 1970, `Time.ofNumber?`.
-/

namespace SealedPage.Render

open Fields

/-- A point in time. The offset is in minutes; a local time has none. -/
structure Time where
  year : Nat
  month : Nat
  day : Nat
  hour : Nat := 0
  minute : Nat := 0
  second : Nat := 0
  micro : Nat := 0
  offset : Option Int := none
  deriving DecidableEq, Repr

namespace Time

/-- A number with at least the given number of digits. -/
def padded (width n : Nat) : List Char :=
  let ds := Nat.toDigits 10 n
  List.replicate (width - ds.length) '0' ++ ds

/-- The text of an offset. -/
def offsetText : Option Int → List Char
  | none => []
  | some 0 => ['Z']
  | some m =>
    (if m < 0 then '-' else '+') :: padded 2 (m.natAbs / 60) ++ ':' :: padded 2 (m.natAbs % 60)

/-- The text of a point in time; a fraction is written if there is one. -/
def text (t : Time) : String :=
  let fraction := if t.micro = 0 then [] else '.' :: padded 6 t.micro
  String.ofList <|
    padded 4 t.year ++ '-' :: padded 2 t.month ++ '-' :: padded 2 t.day ++
      'T' :: padded 2 t.hour ++ ':' :: padded 2 t.minute ++ ':' :: padded 2 t.second ++
      fraction ++ offsetText t.offset

/-- Whether a year has 366 days. -/
def isLeap (year : Nat) : Bool :=
  year % 4 == 0 && (year % 100 != 0 || year % 400 == 0)

/-- The number of days of a month. -/
def monthDays (year month : Nat) : Nat :=
  if month = 2 then if isLeap year then 29 else 28
  else if month = 4 || month = 6 || month = 9 || month = 11 then 30
  else 31

/-- Whether all parts lie in their ranges. -/
def isValid (t : Time) : Bool :=
  1 ≤ t.year && t.year ≤ 9999 && 1 ≤ t.month && t.month ≤ 12 && 1 ≤ t.day &&
    t.day ≤ monthDays t.year t.month && t.hour < 24 && t.minute < 60 && t.second < 60

/-- Reads exactly `count` digits behind the number `n`. -/
def number? (n : Nat) : (count : Nat) → List Char → Option (Nat × List Char)
  | 0, cs => some (n, cs)
  | count + 1, c :: cs =>
    if c.isDigit then number? (10 * n + (c.toNat - 48)) count cs else none
  | _ + 1, [] => none

/-- Reads a mark and the digits behind it. -/
def marked? (marks : List Char) (count : Nat) : List Char → Option (Nat × List Char)
  | c :: cs => if marks.contains c then number? 0 count cs else none
  | [] => none

/-- The first six digits of a fraction as a number of millionths. -/
def millionths (digits : List Char) : Nat :=
  let ds := digits.take 6
  ds.foldl (fun n c => 10 * n + (c.toNat - 48)) 0 * Nat.pow 10 (6 - ds.length)

/-- Reads seconds and their fraction, both of which may be absent. -/
def seconds? (cs : List Char) : Option (Nat × Nat × List Char) :=
  match cs with
  | ':' :: _ =>
    match marked? [':'] 2 cs with
    | none => none
    | some (second, rest) =>
      match rest with
      | '.' :: rest | ',' :: rest =>
        let digits := rest.takeWhile Char.isDigit
        if digits.isEmpty then none
        else some (second, millionths digits, rest.dropWhile Char.isDigit)
      | _ => some (second, 0, rest)
  | _ => some (0, 0, cs)

/-- The offset that the rest of a text writes. -/
def offset? : List Char → Option (Option Int)
  | [] => some none
  | c :: cs =>
    if c = 'Z' || c = 'z' then if cs.isEmpty then some (some 0) else none
    else if c = '+' || c = '-' || c = '−' then
      match number? 0 2 cs with
      | none => none
      | some (hours, rest) =>
        let rest := match rest with
          | ':' :: rest => rest
          | _ => rest
        match number? 0 2 rest with
        | some (minutes, []) =>
          if minutes < 60 && hours < 24 then
            let total : Int := Int.ofNat (60 * hours + minutes)
            some (some (if c = '+' then total else -total))
          else none
        | _ => none
    else none

/-- The time of day behind a date. -/
def clock? (date : Time) (cs : List Char) : Option Time :=
  match marked? ['T', 't', ' ', '_'] 2 cs with
  | none => none
  | some (hour, cs) =>
    match marked? [':'] 2 cs with
    | none => none
    | some (minute, cs) =>
      match seconds? cs with
      | none => none
      | some (second, micro, cs) =>
        (offset? cs).map fun offset => { date with hour, minute, second, micro, offset }

/-- The point in time that a text writes as a date, with a time of day behind it unless the day
begins. -/
def ofDate? (s : List Char) : Option Time :=
  match number? 0 4 s with
  | none => none
  | some (year, cs) =>
    match marked? ['-'] 2 cs with
    | none => none
    | some (month, cs) =>
      match marked? ['-'] 2 cs with
      | none => none
      | some (day, cs) =>
        let date : Time := { year, month, day }
        let time := if cs.isEmpty then some date else clock? date cs
        time.filter isValid

/-! ## Seconds since 1970 -/

/-- The days from the first of March of the year 0 to the beginning of 1970. -/
def daysTo1970 : Nat := 719468

/-- The date that lies the given number of days behind the first of March of the year 0. Years are
counted from March on, in rounds of 400 years, so that the leap day is the last day of its year. -/
def ofDays (days : Nat) : Time :=
  let round := days / 146097
  let day := days % 146097
  let year := (day - day / 1460 + day / 36524 - day / 146096) / 365
  let day := day - (365 * year + year / 4 - year / 100)
  let month := (5 * day + 2) / 153
  let day := day - (153 * month + 2) / 5 + 1
  let year := 400 * round + year
  if month < 10 then { year, month := month + 3, day }
  else { year := year + 1, month := month - 9, day }

/-- The first second that can be read, at the beginning of the year 1600. -/
def firstSecond : Int := -11676096000

/-- The last second that can be read, at the end of the year 9999. -/
def lastSecond : Int := 253402300799

/-- Up to this size a number counts seconds, and above it thousandths of a second. -/
def mostSeconds : Nat := 20000000000

/-- The point in time that lies the given number of seconds and millionths behind 1970. -/
def ofSeconds? (seconds : Int) (micro : Nat) : Option Time :=
  let seconds := seconds + Int.ofNat (micro / 1000000)
  if seconds < firstSecond || lastSecond < seconds then none
  else
    let total := (seconds + Int.ofNat (daysTo1970 * 86400)).toNat
    let second := total % 86400
    some { ofDays (total / 86400) with
      hour := second / 3600, minute := second / 60 % 60, second := second % 60
      micro := micro % 1000000, offset := some 0 }

/-- The point in time that an integer writes, in seconds or in thousandths of a second, with
millionths of a second behind it. -/
def ofInteger? (n : Int) (micro : Nat) : Option Time :=
  if n.natAbs ≤ mostSeconds then ofSeconds? n micro
  else ofSeconds? (n.fdiv 1000) ((n.fmod 1000).toNat * 1000 + micro)

/-- A quotient in millionths, calculated in double precision and rounded with a half upwards. -/
def millionthsOf (num den : Nat) : Nat :=
  let (num, den) := (Json.Double.nearest (num * 1000000) den).toFraction
  (2 * num + den) / (2 * den)

/-- The whole seconds below a number of seconds. -/
def wholeSeconds (negative : Bool) (x : Json.Double) : Int :=
  if negative && x.remainder ≠ 0 then Json.signed negative (x.floor + 1)
  else Json.signed negative x.floor

/-- The point in time that a number writes; its fraction counts without the sign. -/
def ofNumber? (negative : Bool) (x : Json.Double) : Option Time :=
  ofInteger? (wholeSeconds negative x) (millionthsOf x.remainder x.toFraction.2)

/-- The point in time that a text with a point writes, in seconds or in thousandths of a second. -/
def ofPlaces? (negative : Bool) (x : Json.Double) : Option Time :=
  let (num, den) := x.toFraction
  let x := if mostSeconds * den < num then Json.Double.nearest num (1000 * den) else x
  let den := x.toFraction.2
  let above := if negative && x.remainder ≠ 0 then den - x.remainder else x.remainder
  ofInteger? (wholeSeconds negative x) (millionthsOf above den)

/-- The number that digits write. -/
def digitsValue (ds : List Char) : Nat :=
  ds.foldl (fun n c => 10 * n + (c.toNat - 48)) 0

/-- The number that digits behind a point write, added to `x` one after the other in double
precision; the first one is counted in units of `1 / unit`. -/
def addPlaces (x : Json.Double) (unit : Nat) : List Char → Json.Double
  | [] => x
  | c :: cs => addPlaces (x.add (.nearest (c.toNat - 48) unit)) (10 * unit) cs

/-- The point in time that digits write, with a point behind the whole ones or without; these fit
into a signed word. -/
def ofDigits? (negative : Bool) (s : List Char) : Option Time :=
  let whole := s.takeWhile Char.isDigit
  if whole.isEmpty || !fitsWord (digitsValue whole) then none
  else
    match s.drop whole.length with
    | [] => ofInteger? (Json.signed negative (digitsValue whole)) 0
    | '.' :: places =>
      if places.all Char.isDigit then
        ofPlaces? negative (addPlaces (.nearest (digitsValue whole) 1) 10 places)
      else none
    | _ => none

/-- The point in time that a text writes as a number with a sign or without. -/
def ofNumberText? : List Char → Option Time
  | '-' :: cs => ofDigits? true cs
  | '+' :: cs => ofDigits? false cs
  | cs => ofDigits? false cs

/-! ## Fields -/

/-- The point in time that a text writes. -/
def ofText? (s : String) : Option Time :=
  (ofDate? s.toList).orElse fun _ => ofNumberText? s.toList

/-- A point in time, or the problem that a number lies outside of time. -/
def inRange : Option Time → Checked Time
  | some t => .ok t
  | none => .fail .outOfTime

/-- The point in time in a field. -/
def read : Json.Value → Checked Time
  | .str s =>
    match ofText? s with
    | some t => .ok t
    | none => .fail .noTimeText
  | .int n =>
    if (Json.Double.ofDecimal? n.natAbs 0).isNone then .fail .notTime
    else inRange (ofInteger? n 0)
  | .float (.finite negative m e) =>
    inRange ((Json.Double.ofDecimal? m e).bind (ofNumber? negative))
  | .float _ => inRange none
  | _ => .fail .notTime

end Time

end SealedPage.Render
