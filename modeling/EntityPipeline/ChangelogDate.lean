-- Changelog dates: fourteen digits for the second an entity was created in, read leniently. White
-- space may stand before every part, a year with a sign may have any number of digits, and the
-- leap second is a second of its own.
import EntityPipeline.Text.Blank

namespace EntityPipeline

/-- A second of the proleptic Gregorian calendar. -/
structure ChangelogDate where
  year : Int
  month : Nat
  day : Nat
  hour : Nat
  minute : Nat
  second : Nat
deriving DecidableEq, Repr, Inhabited

namespace ChangelogDate

/-! ## Calendar -/

/-- Whether a year has a 29th of February. -/
def isLeap (year : Int) : Bool := year % 4 == 0 && (year % 100 != 0 || year % 400 == 0)

/-- The number of days of a month; there is no month with days outside one to twelve. -/
def daysIn (year : Int) (month : Nat) : Nat :=
  if month == 2 then (if isLeap year then 29 else 28)
  else if [4, 6, 9, 11].contains month then 30
  else if 1 ≤ month && month ≤ 12 then 31
  else 0

/-- Whether the calendar has a date. -/
def isValid (date : ChangelogDate) : Bool :=
  -262143 ≤ date.year && date.year ≤ 262142 && 1 ≤ date.day &&
    date.day ≤ daysIn date.year date.month && date.hour < 24 && date.minute < 60 &&
    date.second ≤ 60

/-! ## Reading -/

/-- The value of a list of digits. -/
def digitsValue (ds : List Char) : Nat := ds.foldl (fun n c => n * 10 + (c.toNat - 48)) 0

/-- At least one digit and at most as many as allowed, and what follows them. -/
def takeDigits (limit : Option Nat) (text : List Char) : Option (Nat × List Char) :=
  let all := text.takeWhile Char.isDigit
  let ds := match limit with
    | some n => all.take n
    | none => all
  if ds.isEmpty then none else some (digitsValue ds, text.drop ds.length)

/-- A number of one or two digits after white space. -/
def takePart (text : List Char) : Option (Nat × List Char) :=
  takeDigits (some 2) (text.dropWhile Text.isBlank)

/-- A year after white space. -/
def takeYear (text : List Char) : Option (Int × List Char) :=
  match text.dropWhile Text.isBlank with
  | '+' :: rest => (takeDigits none rest).map fun (n, rest) => ((n : Int), rest)
  | '-' :: rest => (takeDigits none rest).map fun (n, rest) => (-(n : Int), rest)
  | rest => (takeDigits (some 4) rest).map fun (n, rest) => ((n : Int), rest)

/-- The date of a text, all of which must be used. -/
def parse (text : String) : Option ChangelogDate := do
  let (year, rest) ← takeYear text.toList
  let (month, rest) ← takePart rest
  let (day, rest) ← takePart rest
  let (hour, rest) ← takePart rest
  let (minute, rest) ← takePart rest
  let (second, rest) ← takePart rest
  let date : ChangelogDate := ⟨year, month, day, hour, minute, second⟩
  if rest.isEmpty && date.isValid then some date else none

/-! ## Writing -/

/-- A number with zeros in front of it up to a width. -/
def padded (width n : Nat) : String :=
  let ds := Nat.toDigits 10 n
  String.ofList (List.replicate (width - ds.length) '0' ++ ds)

/-- A year; outside four digits it has a sign. -/
def yearText (year : Int) : String :=
  if 0 ≤ year && year ≤ 9999 then padded 4 year.natAbs
  else (if year < 0 then "-" else "+") ++ padded 4 year.natAbs

/-- The date in universal time. -/
def render (date : ChangelogDate) : String :=
  yearText date.year ++ "-" ++ padded 2 date.month ++ "-" ++ padded 2 date.day ++ "T" ++
    padded 2 date.hour ++ ":" ++ padded 2 date.minute ++ ":" ++ padded 2 date.second ++ "Z"

end ChangelogDate

end EntityPipeline
