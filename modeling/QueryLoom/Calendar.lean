/-!
# Dates and times

Days and instants of the proleptic Gregorian calendar, counted from the start of the year 2000.
Dates run over the years from -262143 to 262142.  A clock may show a leap second, the second 60 of
a minute; it is kept apart from the second 0 that follows.

## Main definitions

* `Date`: a day.
* `DateTime`: a reading of calendar and clock.
* `Timestamp`: a reading in UTC.
-/

namespace QueryLoom

/-- A day, counted from 2000-01-01. -/
structure Date where
  days : Int
  deriving DecidableEq, Repr

/-- A reading of calendar and clock: whole seconds from 2000-01-01T00:00:00 and nanoseconds since.
A leap second has no number of its own; it is the second second of nanoseconds. -/
structure DateTime where
  seconds : Int
  nanos : Nat
  nanos_lt : nanos < 2000000000
  deriving DecidableEq, Repr

/-- An instant, as the reading of a clock in UTC. -/
structure Timestamp where
  clock : DateTime
  deriving DecidableEq, Repr

namespace Date

/-- Days from 0000-03-01 to 2000-01-01.  Counting years from March puts the leap day last. -/
def shift : Int := 730425

/-- The day with the given year, month and day of the month. -/
def ofCivil (year : Int) (month day : Nat) : Date :=
  let y := if month ≤ 2 then year - 1 else year
  let era := y / 400
  let yearOfEra := y % 400
  let monthFromMarch : Int := (month + 9) % 12
  let dayOfYear := (153 * monthFromMarch + 2) / 5 + day - 1
  let dayOfEra := yearOfEra * 365 + yearOfEra / 4 - yearOfEra / 100 + dayOfYear
  ⟨era * 146097 + dayOfEra - shift⟩

/-- Year, month and day of the month. -/
def civil (date : Date) : Int × Nat × Nat :=
  let z := date.days + shift
  let era := z / 146097
  let dayOfEra := z % 146097
  let yearOfEra := (dayOfEra - dayOfEra / 1460 + dayOfEra / 36524 - dayOfEra / 146096) / 365
  let dayOfYear := dayOfEra - (365 * yearOfEra + yearOfEra / 4 - yearOfEra / 100)
  let monthFromMarch := (5 * dayOfYear + 2) / 153
  let day := dayOfYear - (153 * monthFromMarch + 2) / 5 + 1
  let month := if monthFromMarch < 10 then monthFromMarch + 3 else monthFromMarch - 9
  let year := yearOfEra + era * 400
  (if month ≤ 2 then year + 1 else year, month.toNat, day.toNat)

/-- The first day of the calendar. -/
def first : Date := ofCivil (-262143) 1 1

/-- The last day of the calendar. -/
def last : Date := ofCivil 262142 12 31

/-- Whether a day belongs to the calendar. -/
def inRange (date : Date) : Bool :=
  first.days ≤ date.days && date.days ≤ last.days

/-- A number with zeros in front, up to a width. -/
def padded (width n : Nat) : String :=
  let ds := Nat.toDigits 10 n
  String.ofList (List.replicate (width - ds.length) '0' ++ ds)

/-- A year with at least four digits; outside of 0 to 9999 it carries its sign. -/
def yearText (year : Int) : String :=
  if year < 0 then "-" ++ padded 4 year.natAbs
  else if 9999 < year then "+" ++ padded 4 year.natAbs
  else padded 4 year.natAbs

/-- Year, month and day with hyphens between them. -/
def text (date : Date) : String :=
  let (year, month, day) := date.civil
  yearText year ++ "-" ++ padded 2 month ++ "-" ++ padded 2 day

/-- The number that decimal digits spell; `none` for no digits or another character. -/
def number? (cs : List Char) : Option Nat :=
  if !cs.isEmpty && cs.all Char.isDigit then
    some (cs.foldl (fun n c => n * 10 + (c.toNat - 48)) 0)
  else none

/-- Read year, month and day with hyphens between them; the day has to exist. -/
def ofChars? (cs : List Char) : Option Date := do
  let (negative, cs) := match cs with
    | '-' :: rest => (true, rest)
    | '+' :: rest => (false, rest)
    | cs => (false, cs)
  let (year, rest) := cs.span (· != '-')
  let (month, rest) := (rest.drop 1).span (· != '-')
  let year ← number? year
  let month ← number? month
  let day ← number? (rest.drop 1)
  let date := ofCivil (if negative then -(year : Int) else year) month day
  if date.civil = (if negative then -(year : Int) else year, month, day) then some date else none

end Date

namespace DateTime

/-- The day of a reading. -/
def date (t : DateTime) : Date := ⟨t.seconds / 86400⟩

/-- Day, hours, minutes, seconds and all nine digits of the fraction. -/
def text (t : DateTime) : String :=
  let ofDay := (t.seconds % 86400).toNat
  t.date.text ++ "T" ++ Date.padded 2 (ofDay / 3600) ++ ":" ++
    Date.padded 2 (ofDay / 60 % 60) ++ ":" ++
    Date.padded 2 (ofDay % 60 + t.nanos / 1000000000) ++ "." ++
    Date.padded 9 (t.nanos % 1000000000)

/-- Whole microseconds from the start of the year 2000, the rest cut off toward zero. -/
def micros (t : DateTime) : Int := (t.seconds * 1000000000 + t.nanos).tdiv 1000

/-- The reading at a number of microseconds from the start of the year 2000. -/
def ofMicros (micros : Int) : DateTime where
  seconds := micros / 1000000
  nanos := (micros % 1000000).toNat * 1000
  nanos_lt := by omega

/-- Read a day, a `T` and a time with up to nine digits of fraction.  Every minute may have a second
60. -/
def ofChars? (cs : List Char) : Option DateTime := do
  let (day, time) := cs.span (· != 'T')
  let date ← Date.ofChars? day
  let (clock, fraction) := (time.drop 1).span (· != '.')
  let fraction := fraction.drop 1
  let nanos ← if fraction.isEmpty then some 0
    else Date.number? ((fraction ++ List.replicate 9 '0').take 9)
  match clock with
  | [h, h', ':', m, m', ':', s, s'] => do
    let hours ← Date.number? [h, h']
    let minutes ← Date.number? [m, m']
    let seconds ← Date.number? [s, s']
    let nanos := if seconds = 60 then 1000000000 + nanos else nanos
    let ofDay : Nat := hours * 3600 + minutes * 60 + min seconds 59
    if valid : hours < 24 ∧ minutes < 60 ∧ seconds ≤ 60 ∧ nanos < 2000000000 then
      some ⟨date.days * 86400 + ofDay, nanos, valid.2.2.2⟩
    else none
  | _ => none

end DateTime

namespace Timestamp

/-- The clock reading, marked as UTC. -/
def text (t : Timestamp) : String := t.clock.text ++ "Z"

/-- Read a clock reading marked as UTC. -/
def ofChars? (cs : List Char) : Option Timestamp :=
  if cs.getLast? = some 'Z' then (DateTime.ofChars? cs.dropLast).map Timestamp.mk else none

end Timestamp

end QueryLoom
