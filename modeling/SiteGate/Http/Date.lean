import SiteGate.Text.Decimal

/-!
# Dates in headers

A date in a header is written in one of three forms, always in the time of Greenwich:

* `Sun, 06 Nov 1994 08:49:37 GMT`,
* `Sunday, 06-Nov-94 08:49:37 GMT`, where the years 70 to 99 are those of the last century,
* `Sun Nov  6 08:49:37 1994`.

The day must be one that the month has, and its name the right one.
-/

set_option autoImplicit false

namespace SiteGate.Http

/-- A day and a time of day. -/
structure Date where
  year : Nat
  month : Nat
  day : Nat
  hour : Nat
  minute : Nat
  second : Nat
deriving DecidableEq

namespace Date

/-- The short names of the months. -/
def months : List Text :=
  ["Jan", "Feb", "Mar", "Apr", "May", "Jun", "Jul", "Aug", "Sep", "Oct", "Nov", "Dec"].map
    String.toList

/-- The names of the days of the week. -/
def weekdays : List Text :=
  ["Monday", "Tuesday", "Wednesday", "Thursday", "Friday", "Saturday", "Sunday"].map String.toList

/-- The short names of the days of the week. -/
def shortWeekdays : List Text := weekdays.map (·.take 3)

/-- The number of a month, from one. -/
def month? (t : Text) : Option Nat := (months.findIdx? (· == t)).map (· + 1)

/-- The number that a text of so many digits spells. -/
def number? (length : Nat) (t : Text) : Option Nat :=
  if t.length = length then Text.digits? 0 t else none

/-- The hour, the minute and the second that a text spells. -/
def clock? (t : Text) : Option (Nat × Nat × Nat) :=
  match t.splitOn ':' with
  | [h, m, s] =>
    match number? 2 h, number? 2 m, number? 2 s with
    | some h, some m, some s => some (h, m, s)
    | _, _, _ => none
  | _ => none

/-- The date of a day, a month, a year and a time of day, with the number of the day of the week
that it is said to be. -/
def assemble? (weekday year month day : Option Nat) (clock : Option (Nat × Nat × Nat)) :
    Option (Nat × Date) :=
  match weekday, year, month, day, clock with
  | some w, some y, some m, some d, some (hour, minute, second) =>
    some (w, ⟨y, m, d, hour, minute, second⟩)
  | _, _, _, _, _ => none

/-- The number of the day of the week that a short name stands for, from zero. -/
def shortDay? (t : Text) : Option Nat := shortWeekdays.findIdx? (· == t)

/-- Reads the form that begins with a short day and a comma. -/
def ofFixed? (t : Text) : Option (Nat × Date) :=
  match t.splitOn ' ' with
  | [name, day, month, year, clock, zone] =>
    if name.getLast? = some ',' && zone = "GMT".toList then
      assemble? (shortDay? name.dropLast) (number? 4 year) (month? month) (number? 2 day)
        (clock? clock)
    else none
  | _ => none

/-- The year of the present or the last century that two digits stand for. -/
def fullYear (n : Nat) : Nat := if n < 70 then n + 2000 else n + 1900

/-- Reads the form that begins with the full name of the day. What stands between the year and the
time of day is not looked at. -/
def ofLong? (t : Text) : Option (Nat × Date) :=
  let named := weekdays.zipIdx.find? fun (name, _) => (name ++ ", ".toList).isPrefixOf t
  named.bind fun (name, weekday) =>
    let rest := t.drop (name.length + 2)
    let clock := rest.drop 10
    match (rest.take 9).splitOn '-' with
    | [day, month, year] =>
      if clock.drop 8 = " GMT".toList then
        assemble? (some weekday) ((number? 2 year).map fullYear) (month? month) (number? 2 day)
          (clock? (clock.take 8))
      else none
    | _ => none

/-- The day of the month in two places, the first of which may be blank. -/
def paddedDay? : Text → Option Nat
  | [' ', d] => Text.digit? d
  | t => number? 2 t

/-- Reads the form that ends with the year. -/
def ofPlain? (t : Text) : Option (Nat × Date) :=
  let part := fun (first length : Nat) => (t.drop first).take length
  if t.length = 24 && [3, 7, 10, 19].all fun i => t[i]? = some ' ' then
    assemble? (shortDay? (part 0 3)) (number? 4 (part 20 4)) (month? (part 4 3))
      (paddedDay? (part 8 2)) (clock? (part 11 8))
  else none

/-- Whether a year has a day more. -/
def isLeap (year : Nat) : Bool := year % 4 = 0 && (year % 100 ≠ 0 || year % 400 = 0)

/-- The days of each month, where February has twenty-eight. -/
def monthLengths : List Nat := [31, 28, 31, 30, 31, 30, 31, 31, 30, 31, 30, 31]

/-- The days of a month of a year. -/
def monthLength (year month : Nat) : Nat :=
  monthLengths[month - 1]?.getD 0 + if isLeap year && month = 2 then 1 else 0

/-- The leap years before a year. -/
def leapYearsBefore (year : Nat) : Nat :=
  let last := year - 1
  last / 4 - last / 100 + last / 400

/-- The days from the beginning of 1970 to a date. -/
def days (d : Date) : Nat :=
  let months := (List.range (d.month - 1)).map fun m => monthLength d.year (m + 1)
  let daysBefore := months.foldl (· + ·) 0
  (d.year - 1970) * 365 + (leapYearsBefore d.year - leapYearsBefore 1970) + daysBefore +
    (d.day - 1)

/-- The seconds from the beginning of 1970 to a date. -/
def seconds (d : Date) : Nat := ((d.days * 24 + d.hour) * 60 + d.minute) * 60 + d.second

/-- Whether there is such a time on such a day, in a year that is counted. -/
def isPossible (d : Date) : Bool :=
  d.second < 60 && d.minute < 60 && d.hour < 24 && 1970 ≤ d.year && 0 < d.day &&
    d.day ≤ monthLength d.year d.month

/-- The number of the day of the week; the first day of 1970 was a Thursday. -/
def weekday (d : Date) : Nat := (d.days + 3) % 7

/-- The date that a text spells. -/
def ofText? (t : Text) : Option Date :=
  let t := Text.trim t
  (((ofFixed? t).or (ofLong? t)).or (ofPlain? t)).bind fun (named, d) =>
    if d.isPossible && named = d.weekday then some d else none

end Date

end SiteGate.Http
