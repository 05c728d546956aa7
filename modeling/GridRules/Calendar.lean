/-!
# Days and moments

Days of the calendar and moments, which are a day with a time of the day. A moment may say how far
the clock of its place is ahead of the common one; two moments that do are the same if they are at
the same time of the common clock.
-/

namespace GridRules

/-- A number in decimal digits, with zeros in front up to a width. -/
def paddedNumber (width n : Nat) : String :=
  let digits := toString n
  String.ofList (List.replicate (width - digits.length) '0') ++ digits

/-! ### Days -/

/-- A day of the calendar. -/
structure Day where
  year : Nat
  month : Nat
  day : Nat
deriving DecidableEq, Repr, Inhabited

namespace Day

/-- Every fourth year is a leap year, except for centuries that four does not divide. -/
def isLeapYear (year : Nat) : Bool :=
  year % 4 == 0 && (year % 100 != 0 || year % 400 == 0)

/-- The number of days of a month. -/
def monthLength (year month : Nat) : Nat :=
  match month with
  | 2 => if isLeapYear year then 29 else 28
  | 4 | 6 | 9 | 11 => 30
  | _ => 31

/-- The day with the given numbers, if the calendar has it. Years have four digits. -/
def of? (year month day : Nat) : Option Day :=
  if 1 ≤ year ∧ year ≤ 9999 ∧ 1 ≤ month ∧ month ≤ 12 ∧ 1 ≤ day ∧ day ≤ monthLength year month then
    some ⟨year, month, day⟩
  else
    none

/-- The number of days before a day, counted from the start of the first year. -/
def number (d : Day) : Nat :=
  let before := d.year - 1
  let months := (List.range (d.month - 1)).map fun n => monthLength d.year (n + 1)
  before * 365 + before / 4 - before / 100 + before / 400 + months.foldr (· + ·) 0 + (d.day - 1)

/-- The text of a day: year, month and day. -/
def text (d : Day) : String :=
  paddedNumber 4 d.year ++ "-" ++ paddedNumber 2 d.month ++ "-" ++ paddedNumber 2 d.day

end Day

/-! ### Moments -/

/-- A day with a time of the day. The `zone` is the number of minutes by which the clock of the
place is ahead of the common one. -/
structure Moment where
  day : Day
  hour : Nat
  minute : Nat
  second : Nat
  microsecond : Nat := 0
  zone : Option Int := none
deriving DecidableEq, Repr, Inhabited

namespace Moment

/-- The number of minutes in a day. -/
def dayMinutes : Nat := 24 * 60

/-- Whether a moment has a time that a day has, and a clock less than a day apart from the common
one. -/
def isValid (m : Moment) : Bool :=
  m.hour < 24 && m.minute < 60 && m.second < 60
    && m.zone.all fun zone => zone.natAbs < dayMinutes

/-- The microseconds up to a moment, on the common clock if the distance from it is known. -/
def position (m : Moment) : Int :=
  let minutes : Int := (m.day.number * dayMinutes + m.hour * 60 + m.minute : Nat) - m.zone.getD 0
  (minutes * 60 + m.second) * 1000000 + m.microsecond

/-- Whether two moments are the same. -/
def isSame (a b : Moment) : Bool :=
  a.zone.isSome == b.zone.isSome && a.position == b.position

/-- The text of the distance from the common clock: a sign, hours and minutes. -/
def zoneText (zone : Int) : String :=
  (if zone < 0 then "-" else "+") ++ paddedNumber 2 (zone.natAbs / 60) ++ ":"
    ++ paddedNumber 2 (zone.natAbs % 60)

/-- The text of a moment: the day, the time, the microseconds unless they are zero, and the distance
from the common clock. -/
def text (m : Moment) : String :=
  m.day.text ++ " " ++ paddedNumber 2 m.hour ++ ":" ++ paddedNumber 2 m.minute ++ ":"
    ++ paddedNumber 2 m.second
    ++ (if m.microsecond = 0 then "" else "." ++ paddedNumber 6 m.microsecond)
    ++ (m.zone.map zoneText).getD ""

end Moment

end GridRules
