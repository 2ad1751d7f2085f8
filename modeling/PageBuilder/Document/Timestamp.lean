import PageBuilder.Numeral

/-! # Points in time

A moment of the common calendar with its offset from universal time, and its written form in
universal time with milliseconds.

## Implementation notes

Days are counted from 1 March of the year 0, so that the leap day is the last day of a year of the
count. Four hundred years have 146097 days. -/

namespace PageBuilder

/-- A moment; `offset` is how many minutes its clock is ahead of universal time. -/
structure Moment where
  year : Int
  month : Int
  day : Int
  hour : Int
  minute : Int
  second : Int
  microsecond : Int
  offset : Int
  deriving DecidableEq, Repr

namespace Moment

/-- The number of a day in the count of days. -/
def dayNumber (year month day : Int) : Int :=
  let y := if month ≤ 2 then year - 1 else year
  let era := y.fdiv 400
  let yearOfEra := y - era * 400
  let monthOfCount := if month ≤ 2 then month + 9 else month - 3
  let dayOfYear := (153 * monthOfCount + 2).fdiv 5 + day - 1
  era * 146097 + yearOfEra * 365 + yearOfEra.fdiv 4 - yearOfEra.fdiv 100 + dayOfYear

/-- Year, month and day of a day number. -/
def ofDayNumber (n : Int) : Int × Int × Int :=
  let era := n.fdiv 146097
  let dayOfEra := n - era * 146097
  let yearOfEra :=
    (dayOfEra - dayOfEra.fdiv 1460 + dayOfEra.fdiv 36524 - dayOfEra.fdiv 146096).fdiv 365
  let dayOfYear := dayOfEra - (365 * yearOfEra + yearOfEra.fdiv 4 - yearOfEra.fdiv 100)
  let monthOfCount := (5 * dayOfYear + 2).fdiv 153
  let day := dayOfYear - (153 * monthOfCount + 2).fdiv 5 + 1
  let month := if monthOfCount < 10 then monthOfCount + 3 else monthOfCount - 9
  let year := yearOfEra + era * 400
  (if month ≤ 2 then year + 1 else year, month, day)

/-- The same moment on the clock of universal time. -/
def toUniversal (m : Moment) : Moment :=
  let minutes := (dayNumber m.year m.month m.day * 24 + m.hour) * 60 + m.minute - m.offset
  let (year, month, day) := ofDayNumber (minutes.fdiv 1440)
  { m with
    year, month, day
    hour := (minutes.fmod 1440).fdiv 60
    minute := minutes.fmod 60
    offset := 0 }

/-- A number with zeros in front up to the given width. -/
def padded (width : Nat) (n : Int) : List Char :=
  let digits := Numeral.ofInt n
  List.replicate (width - digits.length) '0' ++ digits

/-- The moment in universal time, to the millisecond; the years 1 to 9999 have a written form. -/
def timestamp? (m : Moment) : Option String :=
  let u := m.toUniversal
  if 1 ≤ u.year ∧ u.year ≤ 9999 then
    some <| String.ofList <|
      padded 4 u.year ++ '-' :: padded 2 u.month ++ '-' :: padded 2 u.day ++ 'T' ::
        padded 2 u.hour ++ ':' :: padded 2 u.minute ++ ':' :: padded 2 u.second ++ '.' ::
        padded 3 (u.microsecond.fdiv 1000) ++ ['Z']
  else none

end Moment

end PageBuilder
